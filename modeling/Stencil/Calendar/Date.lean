/-! # Calendar dates

Dates of the proleptic Gregorian calendar, without a time of day, in the years -262143 to 262142.
A date carries the proof that its day exists, so every date that can be built can be printed.
-/

namespace Stencil

namespace Calendar

/-- Whether a year has 366 days. -/
def isLeap (year : Int) : Bool := year % 4 == 0 && (year % 100 != 0 || year % 400 == 0)

/-- The number of days of a month. -/
def daysIn (year : Int) (month : Nat) : Nat :=
  if month = 2 then (if isLeap year then 29 else 28)
  else if month = 4 ∨ month = 6 ∨ month = 9 ∨ month = 11 then 30
  else 31

/-- Whether there is such a day within the supported years. -/
def IsDay (year : Int) (month day : Nat) : Prop :=
  -262143 ≤ year ∧ year ≤ 262142 ∧ 1 ≤ month ∧ month ≤ 12 ∧ 1 ≤ day ∧ day ≤ daysIn year month

instance (year : Int) (month day : Nat) : Decidable (IsDay year month day) := by
  unfold IsDay; infer_instance

end Calendar

/-- A day of the calendar. -/
structure Date where
  year : Int
  month : Nat
  day : Nat
  isDay : Calendar.IsDay year month day
deriving DecidableEq, Repr

namespace Date

open Calendar

/-- The date with the given numbers, if there is such a day. -/
def ofNumbers? (year : Int) (month day : Nat) : Option Date :=
  if exists_ : IsDay year month day then some ⟨year, month, day, exists_⟩ else none

@[simp] theorem ofNumbers?_self (date : Date) :
    ofNumbers? date.year date.month date.day = some date := by
  simp [ofNumbers?, date.isDay]

/-- The number of the day within its year, from one. -/
def dayOfYear (date : Date) : Nat :=
  (List.range (date.month - 1)).foldl (fun days m => days + daysIn date.year (m + 1)) date.day

/-- The days from the first of January of the year 1 to the first of January of a year. -/
def daysBefore (year : Int) : Int :=
  let past := year - 1
  365 * past + past / 4 - past / 100 + past / 400

/-- The day of the week, counted from Monday. The first of January of the year 1 is a Monday. -/
def weekday (date : Date) : Nat :=
  ((daysBefore date.year + date.dayOfYear - 1) % 7).toNat

/-- The day of the week, counted from Sunday. -/
def weekdayFromSunday (date : Date) : Nat := (date.weekday + 1) % 7

/-- The number of the quarter. -/
def quarter (date : Date) : Nat := (date.month + 2) / 3

/-- The number of the week, when weeks begin `sinceStart` days before this date and the days before
the year's first such week belong to week zero. -/
def weekSince (date : Date) (sinceStart : Nat) : Nat := (date.dayOfYear + 6 - sinceStart) / 7

/-- The weekday of the first of January of a year, counted from Monday. -/
def yearStart (year : Int) : Nat := (daysBefore year % 7).toNat

/-- The number of ISO weeks of a year: 53 if it begins on a Thursday, or on a Wednesday and is a leap
year. -/
def isoWeeksIn (year : Int) : Nat :=
  if yearStart year = 3 ∨ (yearStart year = 2 ∧ isLeap year) then 53 else 52

/-- The ISO year and week: weeks begin on Monday and belong to the year of their Thursday. -/
def isoWeek (date : Date) : Int × Nat :=
  let week := (date.dayOfYear + 9 - date.weekday) / 7
  if week = 0 then (date.year - 1, isoWeeksIn (date.year - 1))
  else if isoWeeksIn date.year < week then (date.year + 1, 1)
  else (date.year, week)

end Date

end Stencil
