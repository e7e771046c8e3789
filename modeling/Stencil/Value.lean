import Stencil.Calendar.Pattern
import Stencil.Decimal.Layout
import Stencil.Decimal.Limits
import Stencil.Entries
import Stencil.Json.Basic

/-! # Values

The data that a template is filled with is a tree of values. A map keeps its entries in the order
in which they were put in, one for each key, so that whatever is listed from it comes out the same
every time.
-/

namespace Stencil

/-- A value of the data. -/
inductive Value where
  /-- Deliberately empty: it is found, and shows as nothing. -/
  | null
  | bool (b : Bool)
  | integer (n : Int64)
  | float (x : Float)
  | string (s : String)
  | date (day : Date)
  | list (items : List Value)
  | map (entries : List (String × Value))
deriving Inhabited

/-- A list index as it is written in a path: ASCII digits, a plus sign allowed in front, below
`2 ^ 64`. -/
def readIndex? (key : String) : Option Nat :=
  let ds := match key.toList with
    | '+' :: rest => rest
    | chars => chars
  if ds ≠ [] ∧ ds.all Char.isDigit ∧ Decimal.value ds < Limit.bits64 then some (Decimal.value ds)
  else none

namespace Value

/-- The value under a key of a map, or at an index of a list. -/
def get? (key : String) : Value → Option Value
  | map entries => entries.lookup key
  | list items => (readIndex? key).bind (items[·]?)
  | _ => none

/-- The value at the end of a path. -/
def lookup? (value : Value) : List String → Option Value
  | [] => some value
  | key :: rest => (value.get? key).bind (·.lookup? rest)

/-- A map with a key bound to a value; what is not a map stays as it is. -/
def put (value : Value) (key : String) (item : Value) : Value :=
  match value with
  | map entries => map (putEntry key item entries)
  | other => other

/-- The text of a string. -/
def text? : Value → Option String
  | string s => some s
  | _ => none

/-- A number as a double. -/
def float? : Value → Option Float
  | integer n => some (Decimal.ofInteger n.toInt)
  | float x => some x
  | _ => none

/-- The keys of a map, in order. -/
def keys? : Value → Option (List String)
  | map entries => some (entries.map (·.1))
  | _ => none

/-- What kind of value it is, in a word. -/
def kindName : Value → String
  | null => "null"
  | bool _ => "bool"
  | integer _ => "integer"
  | float _ => "float"
  | string _ => "string"
  | date _ => "date"
  | list _ => "list"
  | map _ => "map"

mutual

/-- A value as plain text: dates in the ISO form, the items of a list joined by commas, and nothing
for a map. -/
def plain : Value → String
  | null => ""
  | bool b => if b then "true" else "false"
  | integer n => Decimal.ofInt n.toInt
  | float x => Decimal.ofFloat x
  | string s => s
  | date day => day.iso
  | list items => String.intercalate ", " (plainItems items)
  | map _ => ""

/-- The items of a list as plain texts. -/
def plainItems : List Value → List String
  | [] => []
  | item :: rest => item.plain :: plainItems rest

end

mutual

/-- Whether two values are equal. Values of different kinds never are, a double that is no number
does not equal itself, and the order of a map's entries does not count. -/
def same : Value → Value → Bool
  | null, null => true
  | bool a, bool b => a == b
  | integer a, integer b => a == b
  | float a, float b => a == b
  | string a, string b => a == b
  | date a, date b => a == b
  | list as, list bs => sameItems as bs
  | map as, map bs => as.length == bs.length && sameEntries as bs
  | _, _ => false

/-- Whether two lists of values are equal item by item. -/
def sameItems : List Value → List Value → Bool
  | [], [] => true
  | a :: as, b :: bs => a.same b && sameItems as bs
  | _, _ => false

/-- Whether every one of some entries is among others, with an equal value under its key. -/
def sameEntries : List (String × Value) → List (String × Value) → Bool
  | [], _ => true
  | (key, a) :: as, bs =>
    match bs.lookup key with
    | some b => a.same b && sameEntries as bs
    | none => false

end

/-- A JSON number as a value: an integer if it is whole and has 64 bits, else a double. -/
def ofNumber : Json.Number → Value
  | .integer n =>
    if Limit.fits Limit.bits63 n then integer (Int64.ofInt n) else float (Decimal.ofInteger n)
  | .float x => float x

mutual

/-- A JSON value as data: the members of an object in ascending order of their names, the last one
of each name. -/
def ofJson : Json → Value
  | .null => null
  | .bool b => bool b
  | .number n => ofNumber n
  | .string s => string s
  | .array items => list (ofItems items)
  | .object members => map (ofMembers [] members)

/-- JSON values as data. -/
def ofItems : List Json → List Value
  | [] => []
  | item :: rest => ofJson item :: ofItems rest

/-- Entries in ascending order of keys, with the members of a JSON object put among them. -/
def ofMembers (entries : List (String × Value)) : List (String × Json) → List (String × Value)
  | [] => entries
  | (key, item) :: rest => ofMembers (putSorted key (ofJson item) entries) rest

end

end Value

end Stencil
