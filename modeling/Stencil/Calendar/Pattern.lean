import Stencil.Calendar.Date
import Stencil.Decimal.Digits

/-! # Date patterns

A date format is text with conversions such as `%Y` or `%d`. A conversion may ask for a time of day
that a date does not have: such a format is valid, yet no date can be written with it, and the date
is written in the ISO form instead. The same happens for a format with a conversion that does not
exist.
-/

namespace Stencil.Calendar

/-- What stands in front of a number to fill its width. -/
inductive Padding where
  | zero
  | space
  | none
deriving DecidableEq, Repr

/-- The numbers that a conversion can ask for. -/
inductive Quantity where
  | year
  | century
  | yearOfCentury
  | quarter
  | month
  | day
  | weekdayFromSunday
  | weekdayFromMonday
  | weekFromSunday
  | weekFromMonday
  | isoYear
  | isoYearOfCentury
  | isoWeek
  | dayOfYear
deriving DecidableEq, Repr

/-- One piece of a date pattern. -/
inductive Item where
  /-- A character that stands for itself. -/
  | literal (c : Char)
  /-- A number. -/
  | number (quantity : Quantity) (padding : Padding)
  /-- The English name of the month, in full or its first three letters. -/
  | monthName (full : Bool)
  /-- The English name of the day of the week, in full or its first three letters. -/
  | weekdayName (full : Bool)
  /-- Something that only a time of day has; a number if it can be padded. -/
  | clock (numeric : Bool)
  /-- A conversion that does not exist. -/
  | unknown
deriving DecidableEq, Repr

namespace Item

/-- The conversions by the characters behind the percent sign. No one of them begins another. -/
def conversions : List (String × List Item) :=
  let year := number .year .zero
  let month := number .month .zero
  let day := number .day .zero
  let american := [month, .literal '/', day, .literal '/', number .yearOfCentury .zero]
  [("Y", [year]), ("C", [number .century .zero]), ("y", [number .yearOfCentury .zero]),
    ("q", [number .quarter .zero]), ("m", [month]), ("d", [day]), ("e", [number .day .space]),
    ("b", [monthName false]), ("h", [monthName false]), ("B", [monthName true]),
    ("a", [weekdayName false]), ("A", [weekdayName true]),
    ("w", [number .weekdayFromSunday .zero]), ("u", [number .weekdayFromMonday .zero]),
    ("U", [number .weekFromSunday .zero]), ("W", [number .weekFromMonday .zero]),
    ("G", [number .isoYear .zero]), ("g", [number .isoYearOfCentury .zero]),
    ("V", [number .isoWeek .zero]), ("j", [number .dayOfYear .zero]),
    ("D", american), ("x", american), ("F", [year, .literal '-', month, .literal '-', day]),
    ("v", [number .day .space, .literal '-', monthName false, .literal '-', year]),
    ("t", [.literal '\t']), ("n", [.literal '\n']), ("%", [.literal '%'])] ++
  (["H", "k", "I", "l", "M", "S", "f", "s"].map fun text => (text, [clock true])) ++
  (["P", "p", ".f", ".3f", ".6f", ".9f", "3f", "6f", "9f", "R", "T", "X", "r", "Z", "z", ":z",
    "::z", ":::z", "#z", "c", "+"].map fun text => (text, [clock false]))

/-- The padding asked for between the percent sign and the conversion. -/
def takePadding : List Char → Option Padding × List Char
  | '-' :: rest => (some .none, rest)
  | '_' :: rest => (some .space, rest)
  | '0' :: rest => (some .zero, rest)
  | rest => (none, rest)

theorem takePadding_length_le (chars : List Char) :
    (takePadding chars).2.length ≤ chars.length := by
  unfold takePadding
  split <;> simp

/-- The items of a conversion under a padding: only a number on its own can be padded. -/
def padded : Option Padding → List Item → List Item
  | none, items => items
  | some padding, [number quantity _] => [number quantity padding]
  | some _, [clock true] => [clock true]
  | some _, _ => [unknown]

/-- The items of a date format. Nothing is read behind a conversion that does not exist. -/
def ofChars : List Char → List Item
  | [] => []
  | c :: rest =>
    if c = '%' then
      let body := (takePadding rest).2
      match conversions.find? fun conversion => conversion.1.toList.isPrefixOf body with
      | some (text, items) =>
        padded (takePadding rest).1 items ++ ofChars (body.drop text.length)
      | none => [unknown]
    else literal c :: ofChars rest
termination_by chars => chars.length
decreasing_by
  · have := takePadding_length_le rest
    simp only [List.length_drop, List.length_cons]
    omega
  · simp

end Item

/-- The English names of the months. -/
def monthNames : List String :=
  ["January", "February", "March", "April", "May", "June", "July", "August", "September", "October",
    "November", "December"]

/-- The English names of the days of the week. -/
def weekdayNames : List String :=
  ["Monday", "Tuesday", "Wednesday", "Thursday", "Friday", "Saturday", "Sunday"]

/-- The name at an index, or the first three letters of it. -/
def nameAt (names : List String) (index : Nat) (full : Bool) : List Char :=
  let name := (names.getD index "").toList
  if full then name else name.take 3

/-- A number below 256 in two places. The tens are the character that many places behind `0`, so
from 100 on they leave the digits. -/
def twoPlaces (padding : Padding) (n : Nat) : List Char :=
  let tens : List Char :=
    if n / 10 = 0 then
      match padding with
      | .none => []
      | .space => [' ']
      | .zero => ['0']
    else [Char.ofNat ('0'.toNat + n / 10)]
  tens ++ [Decimal.digitChar (n % 10)]

/-- A number in at least `width` places. -/
def places (padding : Padding) (width n : Nat) : List Char :=
  match padding with
  | .none => Decimal.digits n
  | .space => Decimal.padTo width ' ' (Decimal.digits n)
  | .zero => Decimal.padTo width '0' (Decimal.digits n)

/-- A year in at least four places, with a sign and at least five places outside 0 to 9999. -/
def yearPlaces (padding : Padding) (year : Int) : List Char :=
  if 0 ≤ year ∧ year ≤ 9999 then places padding 4 year.natAbs
  else
    let sign := if year < 0 then '-' else '+'
    match padding with
    | .none => sign :: Decimal.digits year.natAbs
    | .space => Decimal.padTo 5 ' ' (sign :: Decimal.digits year.natAbs)
    | .zero => sign :: Decimal.padTo 4 '0' (Decimal.digits year.natAbs)

/-- A quantity of a date as text. The century is taken modulo 256. -/
def Quantity.text (date : Date) (padding : Padding) : Quantity → List Char
  | year => yearPlaces padding date.year
  | century => twoPlaces padding (date.year / 100 % 256).toNat
  | yearOfCentury => twoPlaces padding (date.year % 100).toNat
  | quarter => [Decimal.digitChar date.quarter]
  | month => twoPlaces padding date.month
  | day => twoPlaces padding date.day
  | weekdayFromSunday => [Decimal.digitChar date.weekdayFromSunday]
  | weekdayFromMonday => [Decimal.digitChar (date.weekday + 1)]
  | weekFromSunday => twoPlaces padding (date.weekSince date.weekdayFromSunday)
  | weekFromMonday => twoPlaces padding (date.weekSince date.weekday)
  | isoYear => yearPlaces padding date.isoWeek.1
  | isoYearOfCentury => twoPlaces padding (date.isoWeek.1 % 100).toNat
  | isoWeek => twoPlaces padding date.isoWeek.2
  | dayOfYear => places padding 3 date.dayOfYear

/-- The text of an item for a date, if the item asks for nothing else. -/
def Item.text? (date : Date) : Item → Option (List Char)
  | literal c => some [c]
  | number quantity padding => some (quantity.text date padding)
  | monthName full => some (nameAt monthNames (date.month - 1) full)
  | weekdayName full => some (nameAt weekdayNames date.weekday full)
  | clock _ => none
  | unknown => none

/-- Whether every conversion of a format exists. -/
def isValidFormat (format : String) : Bool := (Item.ofChars format.toList).all (· ≠ .unknown)

end Calendar

namespace Date

open Calendar

/-- A date under a format, if the format asks for nothing but a date. -/
def format? (date : Date) (format : String) : Option String :=
  ((Item.ofChars format.toList).mapM (Item.text? date)).map fun parts => String.ofList parts.flatten

/-- A date as year, month and day, joined by hyphens. -/
def iso (date : Date) : String :=
  String.ofList (yearPlaces .zero date.year ++ '-' :: twoPlaces .zero date.month ++
    '-' :: twoPlaces .zero date.day)

/-- A date under a format, or in the ISO form if the format does not suit a date. -/
def format (date : Date) (format : String) : String := (date.format? format).getD date.iso

end Date

end Stencil
