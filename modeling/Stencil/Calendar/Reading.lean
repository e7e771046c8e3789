import Stencil.Calendar.Date
import Stencil.Decimal.Digits
import Stencil.Decimal.Limits
import Stencil.Text.Blank

/-! # Reading dates

Dates are read from three kinds of text: a plain date, a timestamp with an offset from Greenwich,
and a timestamp without one. Each is read from left to right, and the first thing that does not fit
decides what is wrong with it.
-/

namespace Stencil

namespace Date

/-- Why a text is no date. -/
inductive Problem where
  /-- The text ends where something is required. -/
  | premature
  /-- Something else stands where a number or a mark is required. -/
  | unexpected
  /-- A number is too large, or there is no such day. -/
  | outOfRange
  /-- Text follows the date. -/
  | trailing
deriving DecidableEq, Repr

/-- What is said about a text that is no date. -/
def Problem.message : Problem → String
  | premature => "premature end of input"
  | unexpected => "input contains invalid characters"
  | outOfRange => "input is out of range"
  | trailing => "trailing input"

end Date

namespace Calendar

open Text

/-- A number of one digit or more, at most `most` of them, that fits 63 bits. -/
def readNumber (most : Nat) (chars : List Char) : Except Date.Problem (Nat × List Char) :=
  let ds := (chars.take most).takeWhile Char.isDigit
  if chars = [] then .error .premature
  else if ds = [] then .error .unexpected
  else if Limit.bits63 ≤ Decimal.value ds then .error .outOfRange
  else .ok (Decimal.value ds, chars.drop ds.length)

/-- A year as it is written: four digits at most, or a sign and any number of digits. -/
def readSigned : List Char → Except Date.Problem (Int × List Char)
  | '-' :: rest => (readNumber rest.length rest).map fun (n, behind) => (-(n : Int), behind)
  | '+' :: rest => (readNumber rest.length rest).map fun (n, behind) => ((n : Int), behind)
  | rest => (readNumber 4 rest).map fun (n, behind) => ((n : Int), behind)

/-- A year of 32 bits, blanks allowed in front of it. -/
def readYear (chars : List Char) : Except Date.Problem (Int × List Char) := do
  let (year, rest) ← readSigned (trimFront chars)
  if Limit.fits Limit.bits31 year then pure (year, rest) else throw .outOfRange

/-- A number of one or two digits within limits, blanks allowed in front of it. -/
def readPart (low high : Nat) (chars : List Char) : Except Date.Problem (Nat × List Char) := do
  let (n, rest) ← readNumber 2 (trimFront chars)
  if low ≤ n ∧ n ≤ high then pure (n, rest) else throw .outOfRange

/-- The text behind a mark. -/
def readMark (mark : Char) : List Char → Except Date.Problem (List Char)
  | [] => .error .premature
  | c :: rest => if c = mark then .ok rest else .error .unexpected

/-- The numbers of a date with hyphens between them. `gap` is what may be skipped in front of a
hyphen and at the end. -/
def readNumbers (gap : List Char → List Char) (chars : List Char) :
    Except Date.Problem ((Int × Nat × Nat) × List Char) := do
  let (year, rest) ← readYear chars
  let rest ← readMark '-' (gap rest)
  let (month, rest) ← readPart 1 12 rest
  let rest ← readMark '-' (gap rest)
  let (day, rest) ← readPart 1 31 rest
  pure ((year, month, day), gap rest)

/-- A date that fills the whole text. -/
def readDate (gap : List Char → List Char) (chars : List Char) : Except Date.Problem Date := do
  let ((year, month, day), rest) ← readNumbers gap chars
  if rest ≠ [] then throw .trailing
  match Date.ofNumbers? year month day with
  | some date => pure date
  | none => throw .outOfRange

/-- A fraction of a second: a point and a digit or more, or nothing. -/
def skipFraction? : List Char → Option (List Char)
  | '.' :: rest => if (rest.head?.any Char.isDigit) then some (rest.dropWhile Char.isDigit) else none
  | rest => some rest

/-- The time of day behind the `T` of a timestamp without an offset, skipped to the end. -/
def skipClock (chars : List Char) : Except Date.Problem (List Char) := do
  let (_, rest) ← readPart 0 23 chars
  let rest ← readMark ':' (trimFront rest)
  let (_, rest) ← readPart 0 59 rest
  let rest ← readMark ':' (trimFront rest)
  let (_, rest) ← readPart 0 60 rest
  match skipFraction? rest with
  | some rest => pure (trimFront rest)
  | none => throw .unexpected

/-- The date of a timestamp without an offset. -/
def readTimestamp? (chars : List Char) : Option Date := do
  let ((year, month, day), rest) ← (readNumbers trimFront chars).toOption
  let rest ← (readMark 'T' rest).toOption
  let rest ← (skipClock rest).toOption
  if rest ≠ [] then none
  Date.ofNumbers? year month day

/-- Exactly `count` digits, and the text behind them. -/
def exactDigits? (count : Nat) (chars : List Char) : Option (Nat × List Char) :=
  let ds := chars.take count
  if ds.length = count ∧ ds.all Char.isDigit then some (Decimal.value ds, chars.drop count) else none

/-- The text behind one of these characters. -/
def oneOf? (allowed : List Char) : List Char → Option (List Char)
  | c :: rest => if c ∈ allowed then some rest else none
  | [] => none

/-- The text behind an offset from Greenwich. -/
def skipOffset? (chars : List Char) : Option (List Char) :=
  match oneOf? ['Z', 'z'] chars with
  | some rest => some rest
  | none => do
    let rest ← oneOf? ['+', '-', '\u2212'] chars
    let (hours, rest) ← exactDigits? 2 rest
    let rest ← oneOf? [':'] rest
    let (minutes, rest) ← exactDigits? 2 rest
    if hours < 24 ∧ minutes < 60 then some rest else none

/-- The date of a timestamp with an offset, as it is written, whatever date it is in Greenwich. -/
def readOffsetTimestamp? (chars : List Char) : Option Date := do
  let (year, rest) ← exactDigits? 4 chars
  let rest ← oneOf? ['-'] rest
  let (month, rest) ← exactDigits? 2 rest
  let rest ← oneOf? ['-'] rest
  let (day, rest) ← exactDigits? 2 rest
  let rest ← oneOf? ['T', 't', ' '] rest
  let (hours, rest) ← exactDigits? 2 rest
  let rest ← oneOf? [':'] rest
  let (minutes, rest) ← exactDigits? 2 rest
  let rest ← oneOf? [':'] rest
  let (seconds, rest) ← exactDigits? 2 rest
  let rest ← skipFraction? rest
  let rest ← skipOffset? rest
  if rest = [] ∧ hours < 24 ∧ minutes < 60 ∧ seconds ≤ 60 then Date.ofNumbers? year month day else none

end Calendar

namespace Date

open Calendar Text

/-- The date that a text holds: a plain date, or the date of a timestamp. Blanks around it do not
count. -/
def ofText? (text : String) : Option Date :=
  let chars := trim text.toList
  ((readDate id chars).toOption <|> readOffsetTimestamp? chars) <|> readTimestamp? chars

/-- The date that a text consists of; blanks may stand in front of any of its parts and at the end. -/
def ofWholeText (text : String) : Except Problem Date := readDate trimFront text.toList

end Date

end Stencil
