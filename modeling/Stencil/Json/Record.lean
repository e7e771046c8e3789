import Stencil.Json.Problem

/-! # Reading records from JSON

A reader turns a draft into data. A record starts out with its defaults, and every member that is
read overwrites one field; members that the record does not know are skipped. A record may also be
given as the list of its fields in order.
-/

namespace Stencil.Json

/-- A number as a double, the nearest one if it is whole. -/
def Number.toFloat : Number → Float
  | integer n => Decimal.ofInteger n
  | float x => x

/-- Reads data from a draft. -/
abbrev Reader (α : Type) := Draft → Except Problem α

namespace Reader

/-- Reads a text. -/
def text : Reader String
  | .string (some s) => .ok s
  | draft => draft.unexpected "a string"

/-- Reads a truth value. -/
def bool : Reader Bool
  | .bool b => .ok b
  | draft => draft.unexpected "a boolean"

/-- Reads a double; whole numbers are doubles too. -/
def float : Reader Float
  | .number numeral =>
    match numeral.value? with
    | some n => .ok n.toFloat
    | none => .error .malformed
  | draft => draft.unexpected "f64"

/-- Reads a whole number of 64 bits that is not negative. -/
def word : Reader UInt64
  | .number numeral =>
    match numeral.value? with
    | some (.integer n) =>
      if 0 ≤ n then .ok (UInt64.ofNat n.toNat)
      else .error (.mismatch (.range (.number (.integer n)) "u64"))
    | some (.float x) => .error (.mismatch (.kind (.number (.float x)) "u64"))
    | none => .error .malformed
  | draft => draft.unexpected "u64"

/-- Reads a date from a text that holds nothing else. -/
def date : Reader Date
  | .string (some s) => (Date.ofWholeText s).mapError fun problem => .mismatch (.date problem)
  | draft => draft.unexpected "a formatted date string"

/-- Reads what may be absent: `null` stands for nothing. -/
def optional (read : Reader α) : Reader (Option α)
  | .null => .ok none
  | draft => (read draft).map some

/-- Reads the items of an array one by one. -/
def list (read : Reader α) : Reader (List α)
  | .array items closed => do
    let found ← items.mapM read
    if closed then pure found else throw .malformed
  | draft => draft.unexpected "a sequence"

/-- A field of a record: how its value is read and stored. A field that is not required keeps its
default when it is absent. -/
structure RecordField (σ : Type) where
  name : String
  required : Bool
  store : Draft → Except Problem (σ → σ)

/-- A field whose value is read by a reader and put into the record. -/
def field (name : String) (required : Bool) (read : Reader α) (put : α → σ → σ) : RecordField σ :=
  ⟨name, required, fun draft => (read draft).map put⟩

/-- Reads the members of a record. `seen` holds the names of the fields that were read before. -/
def members (fields : List (RecordField σ)) :
    List String → σ → List (Option String × Draft) → Except Problem (List String × σ)
  | seen, record, [] => .ok (seen, record)
  | _, _, (none, _) :: _ => .error .malformed
  | seen, record, (some key, draft) :: rest =>
    match fields.find? (·.name = key) with
    | some field =>
      if key ∈ seen then .error (.mismatch (.duplicate key))
      else do members fields (key :: seen) ((← field.store draft) record) rest
    | none => if draft.isWhole then members fields seen record rest else .error .malformed

/-- Reads the fields of a record from a list, of which `index` items were read before. -/
def positional (name : String) (count : Nat) (closed : Bool) :
    Nat → List (RecordField σ) → σ → List Draft → Except Problem σ
  | _, [], record, [] => if closed then .ok record else .error .malformed
  | _, [], _, _ :: _ => .error .malformed
  | index, field :: fields, record, [] =>
    if !closed then .error .malformed
    else if field.required then .error (.mismatch (.length index name count))
    else positional name count closed (index + 1) fields record []
  | index, field :: fields, record, item :: items => do
    positional name count closed (index + 1) fields ((← field.store item) record) items

/-- Reads a record that starts out as `blank`. -/
def record (name : String) (fields : List (RecordField σ)) (blank : σ) : Reader σ
  | .object entries closed => do
    let (seen, filled) ← members fields [] blank entries
    if !closed then throw .malformed
    match fields.find? fun field => field.required && !seen.contains field.name with
    | some field => throw (.mismatch (.missing field.name))
    | none => pure filled
  | .array items closed => positional name fields.length closed 0 fields blank items
  | draft => draft.unexpected ("struct " ++ name)

/-- Reads data from a text that holds one value and nothing else. -/
def ofText (read : Reader α) (text : String) : Except Problem α := do
  let (draft, complete) := Draft.ofText text
  let found ← read draft
  if complete then pure found else throw .malformed

end Reader

end Stencil.Json
