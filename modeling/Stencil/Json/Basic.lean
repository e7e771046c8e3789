/-! # JSON values

A JSON value keeps whole numbers and doubles apart, so that `3` and `3.0` stay distinct, and keeps
the members of an object in the order in which they stand.
-/

namespace Stencil

namespace Json

/-- A number: a whole number of at most 64 bits, or a double. -/
inductive Number where
  | integer (n : Int)
  | float (x : Float)
deriving DecidableEq, Inhabited

end Json

/-- A JSON value. -/
inductive Json where
  | null
  | bool (b : Bool)
  | number (n : Json.Number)
  | string (s : String)
  | array (items : List Json)
  | object (members : List (String × Json))
deriving Inhabited

namespace Json

/-- A whole number as a JSON value. -/
def ofNat (n : Nat) : Json := .number (.integer n)

/-- A text as a JSON value. -/
def ofTexts (texts : List String) : Json := .array (texts.map .string)

/-- A value that may be absent, as JSON: absent values are `null`. -/
def ofOption (encode : α → Json) : Option α → Json
  | some a => encode a
  | none => .null

/-- The member of an object with a name, the last one if there are several. -/
def member? (name : String) : Json → Option Json
  | object members => members.reverse.lookup name
  | _ => none

end Json

end Stencil
