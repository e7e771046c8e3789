import Stencil.Calendar.Reading
import Stencil.Json.Draft
import Stencil.Json.Writer
import Stencil.Text.Printable

/-! # What can be wrong with JSON data

A JSON text that should hold a record can fail in its grammar or in its data. For data the cause
says what was found and what was expected.
-/

namespace Stencil.Json

/-- What stands in the place of something else. -/
inductive Found where
  | null
  | boolean (b : Bool)
  | number (n : Number)
  | text (s : String)
  | sequence
  | map

/-- How a character is shown inside a message: what is not printable by its code. -/
def shownChar (c : Char) : List Char :=
  if c = '"' then ['\\', '"']
  else if c = '\\' then ['\\', '\\']
  else if c = '\n' then ['\\', 'n']
  else if c = '\r' then ['\\', 'r']
  else if c = '\t' then ['\\', 't']
  else if c = '\x00' then ['\\', '0']
  else if Text.isPrintable c then [c]
  else '\\' :: 'u' :: '\x7b' :: Nat.toDigits 16 c.toNat ++ ['\x7d']

/-- What stands in the place of something else, in words. -/
def Found.message : Found → String
  | null => "null"
  | boolean b => "boolean `" ++ (if b then "true" else "false") ++ "`"
  | number (.integer n) => "integer `" ++ Decimal.ofInt n ++ "`"
  | number (.float x) => "floating point `" ++ String.ofList (Number.float x).text ++ "`"
  | text s => "string \"" ++ String.ofList (s.toList.flatMap shownChar) ++ "\""
  | sequence => "sequence"
  | map => "map"

/-- A way in which data does not have the expected shape. -/
inductive Mismatch where
  /-- A record lacks a member. -/
  | missing (field : String)
  /-- A record has a member twice. -/
  | duplicate (field : String)
  /-- A value is of another kind than expected. -/
  | kind (found : Found) (expected : String)
  /-- A number is of the right kind but out of range. -/
  | range (found : Found) (expected : String)
  /-- A record given as a list is too short. -/
  | length (found : Nat) (record : String) (expected : Nat)
  /-- A text is no date. -/
  | date (problem : Date.Problem)

/-- What is said about data that does not have the expected shape. -/
def Mismatch.message : Mismatch → String
  | missing field => "missing field `" ++ field ++ "`"
  | duplicate field => "duplicate field `" ++ field ++ "`"
  | kind found expected => "invalid type: " ++ found.message ++ ", expected " ++ expected
  | range found expected => "invalid value: " ++ found.message ++ ", expected " ++ expected
  | length found record expected =>
    "invalid length " ++ Decimal.ofNat found ++ ", expected struct " ++ record ++ " with " ++
      Decimal.ofNat expected ++ " elements"
  | date problem => problem.message

/-- Why a text does not hold the expected data. -/
inductive Problem where
  /-- The text is not JSON. -/
  | malformed
  /-- The text is JSON up to a value that does not fit. -/
  | mismatch (cause : Mismatch)

/-- What a draft turns out to be when something else was expected. A scalar is read in full, an array
or an object only up to its bracket. -/
def Draft.found : Draft → Except Problem Found
  | broken => .error .malformed
  | null => .ok .null
  | bool b => .ok (.boolean b)
  | number numeral =>
    match numeral.value? with
    | some n => .ok (.number n)
    | none => .error .malformed
  | string (some s) => .ok (.text s)
  | string none => .error .malformed
  | array .. => .ok .sequence
  | object .. => .ok .map

/-- The answer to a draft of the wrong kind. -/
def Draft.unexpected (expected : String) (draft : Draft) : Except Problem α := do
  throw (.mismatch (.kind (← draft.found) expected))

end Stencil.Json
