import Stencil.Calendar.Pattern
import Stencil.Calendar.Reading
import Stencil.Proofs.Decimal.Digits

/-! # Dates read back from their ISO form

The ISO form of a date has a hyphen in front of a year below zero and a plus sign in front of a
year of five digits or more. Read as a plain date it gives the date back, for all the years that a
date can have.
-/

namespace Stencil

namespace Calendar

open Decimal Text

variable {c : Char} {chars rest : List Char}

theorem trimFront_cons_of_not_isBlank (solid : isBlank c = false) :
    trimFront (c :: rest) = c :: rest := by
  simp [trimFront, solid]

theorem not_isBlank_of_isDigit (digit : c.isDigit = true) : isBlank c = false := by
  obtain ⟨n, small, rfl⟩ := exists_digitChar digit
  have solid : ∀ n < 10, isBlank (digitChar n) = false := by decide
  exact solid n small

/-- No blank is skipped in front of digits. -/
theorem trimFront_digits_append (digit : ∀ c ∈ chars, c.isDigit = true) (some : chars ≠ []) :
    trimFront (chars ++ rest) = chars ++ rest := by
  obtain ⟨first, others, rfl⟩ := List.exists_cons_of_ne_nil some
  exact trimFront_cons_of_not_isBlank (not_isBlank_of_isDigit (digit first List.mem_cons_self))

theorem readSigned_digits_append (digit : ∀ c ∈ chars, c.isDigit = true) (some : chars ≠ []) :
    readSigned (chars ++ rest) =
      (readNumber 4 (chars ++ rest)).map fun (n, behind) => ((n : Int), behind) := by
  obtain ⟨first, others, rfl⟩ := List.exists_cons_of_ne_nil some
  have mark := digit first List.mem_cons_self
  rw [List.cons_append]
  unfold readSigned
  split
  · next minus =>
    cases minus
    cases mark
  · next plus =>
    cases plus
    cases mark
  · rfl

/-- A number ends where its digits end. -/
theorem readNumber_append {most : Nat} (digit : ∀ c ∈ chars, c.isDigit = true) (some : chars ≠ [])
    (short : chars.length ≤ most) (fits : value chars < Limit.bits63)
    (stops : ∀ c ∈ rest.head?, c.isDigit = false) :
    readNumber most (chars ++ rest) = .ok (value chars, rest) := by
  have front : ((chars ++ rest).take most).takeWhile Char.isDigit = chars := by
    rw [List.take_append, List.take_of_length_le short, List.takeWhile_append_of_pos digit]
    cases rest with
    | nil => simp
    | cons c rest =>
      have stop : ¬ c.isDigit = true := by simp [stops c rfl]
      cases most - chars.length <;> simp [stop]
  have notEmpty : chars ++ rest ≠ [] := by simp [some]
  simp only [readNumber, front, notEmpty, some, if_false, Nat.not_le.mpr fits, List.drop_left]

theorem twoPlaces_zero (n : Nat) :
    twoPlaces .zero n = [digitChar (n / 10), digitChar (n % 10)] := by
  by_cases small : n / 10 = 0
  · simp only [twoPlaces, small]
    rfl
  · simp only [twoPlaces, small]
    rfl

theorem isDigit_of_mem_twoPlaces {n : Nat} (small : n < 100) :
    ∀ c ∈ twoPlaces .zero n, c.isDigit = true := by
  have tens : n / 10 < 10 := by omega
  have ones : n % 10 < 10 := Nat.mod_lt n (by decide)
  simp [twoPlaces_zero, isDigit_digitChar _ tens, isDigit_digitChar _ ones]

/-- A month or a day in two places is read back. -/
theorem readPart_twoPlaces_append {low high n : Nat} (least : low ≤ n) (most : n ≤ high)
    (places : high < 100) (stops : ∀ c ∈ rest.head?, c.isDigit = false) :
    readPart low high (twoPlaces .zero n ++ rest) = .ok (n, rest) := by
  have tens : n / 10 < 10 := by omega
  have ones : n % 10 < 10 := Nat.mod_lt n (by decide)
  have digit := isDigit_of_mem_twoPlaces (Nat.lt_of_le_of_lt most places)
  have same : value (twoPlaces .zero n) = n := by
    simp only [twoPlaces_zero, value, List.foldl_cons, List.foldl_nil,
      digitValue_digitChar _ tens, digitValue_digitChar _ ones]
    omega
  have some : twoPlaces .zero n ≠ [] := by simp [twoPlaces_zero]
  have fits : value (twoPlaces .zero n) < Limit.bits63 := by
    rw [same, Limit.bits63]
    omega
  have short : (twoPlaces .zero n).length ≤ 2 := by simp [twoPlaces_zero]
  have number := readNumber_append digit some short fits stops
  rw [same] at number
  simp [readPart, trimFront_digits_append digit some, number, least, most, bind, Except.bind, pure,
    Except.pure]

/-- The digits of a year, with zeros in front up to four places. -/
def yearDigits (year : Int) : List Char := padTo 4 '0' (digits year.natAbs)

theorem isDigit_of_mem_yearDigits (year : Int) : ∀ c ∈ yearDigits year, c.isDigit = true :=
  isDigit_of_mem_padTo 4 year.natAbs

theorem yearDigits_ne_nil (year : Int) : yearDigits year ≠ [] := by
  simp [yearDigits, padTo, digits_ne_nil]

/-- A year is its digits, with a sign in front if they are too many or it lies below zero. -/
theorem yearPlaces_zero (year : Int) :
    (0 ≤ year ∧ (yearDigits year).length ≤ 4 ∧ yearPlaces .zero year = yearDigits year) ∨
    (0 ≤ year ∧ yearPlaces .zero year = '+' :: yearDigits year) ∨
    (year < 0 ∧ yearPlaces .zero year = '-' :: yearDigits year) := by
  by_cases plain : 0 ≤ year ∧ year ≤ 9999
  · have small : year.natAbs < 10000 := by omega
    have length : (yearDigits year).length = 4 := length_padTo (by decide) small
    exact .inl ⟨plain.1, Nat.le_of_eq length, by simp [yearPlaces, plain, places, yearDigits]⟩
  · by_cases below : year < 0
    · exact .inr (.inr ⟨below, by simp [yearPlaces, plain, below, yearDigits]⟩)
    · exact .inr (.inl ⟨by omega, by simp [yearPlaces, plain, below, yearDigits]⟩)

/-- A year is read back, whatever its sign. -/
theorem readYear_yearPlaces_append {year : Int} (fits : Limit.fits Limit.bits31 year = true)
    (stops : ∀ c ∈ rest.head?, c.isDigit = false) :
    readYear (yearPlaces .zero year ++ rest) = .ok (year, rest) := by
  have digit := isDigit_of_mem_yearDigits year
  have some := yearDigits_ne_nil year
  have same : value (yearDigits year) = year.natAbs := by rw [yearDigits, value_padTo, value_digits]
  have small : value (yearDigits year) < Limit.bits63 := by
    have bounds := fits
    simp only [Limit.fits, Bool.and_eq_true, decide_eq_true_eq] at bounds
    rw [Limit.bits31] at bounds
    rw [same, Limit.bits63]
    omega
  have signed (most : Nat) (short : (yearDigits year).length ≤ most) :
      readNumber most (yearDigits year ++ rest) = .ok (year.natAbs, rest) := by
    rw [readNumber_append digit some short small stops, same]
  have tall : (yearDigits year).length ≤ (yearDigits year ++ rest).length := by simp
  suffices read : readSigned (trimFront (yearPlaces .zero year ++ rest)) = .ok (year, rest) by
    simp [readYear, read, fits, bind, Except.bind, pure, Except.pure]
  rcases yearPlaces_zero year with ⟨atLeast, short, plain⟩ | ⟨atLeast, plus⟩ | ⟨below, minus⟩
  · have positive : (year.natAbs : Int) = year := by omega
    rw [plain, trimFront_digits_append digit some, readSigned_digits_append digit some,
      signed 4 short]
    exact congrArg (fun n => Except.ok (n, rest)) positive
  · have positive : (year.natAbs : Int) = year := by omega
    rw [plus, List.cons_append, trimFront_cons_of_not_isBlank (by decide), readSigned,
      signed _ tall]
    exact congrArg (fun n => Except.ok (n, rest)) positive
  · have negative : -(year.natAbs : Int) = year := by omega
    rw [minus, List.cons_append, trimFront_cons_of_not_isBlank (by decide), readSigned,
      signed _ tall]
    exact congrArg (fun n => Except.ok (n, rest)) negative

theorem daysIn_le (year : Int) (month : Nat) : daysIn year month ≤ 31 := by
  unfold daysIn
  split
  · split <;> decide
  · split <;> decide

/-- A date is read back from its ISO form. `gap` may skip blanks between the parts, and there are
none. -/
theorem readDate_iso {gap : List Char → List Char}
    (keeps : ∀ chars, trimFront chars = chars → gap chars = chars) (date : Date) :
    readDate gap date.iso.toList = .ok date := by
  obtain ⟨low, high, january, december, first, last⟩ := date.isDay
  have short : date.day ≤ 31 := Nat.le_trans last (daysIn_le date.year date.month)
  have fits : Limit.fits Limit.bits31 date.year = true := by
    simp only [Limit.fits, Bool.and_eq_true, decide_eq_true_eq]
    rw [Limit.bits31]
    omega
  have hyphen (behind : List Char) : gap ('-' :: behind) = '-' :: behind :=
    keeps _ (trimFront_cons_of_not_isBlank (by decide))
  have year (behind : List Char) :
      readYear (yearPlaces .zero date.year ++ '-' :: behind) = .ok (date.year, '-' :: behind) :=
    readYear_yearPlaces_append fits (by simp)
  have month (behind : List Char) : readPart 1 12 (twoPlaces .zero date.month ++ '-' :: behind) =
      .ok (date.month, '-' :: behind) :=
    readPart_twoPlaces_append january december (by decide) (by simp)
  have day : readPart 1 31 (twoPlaces .zero date.day) = .ok (date.day, []) := by
    simpa using @readPart_twoPlaces_append [] 1 31 _ first short (by decide) (by simp)
  have numbers :
      readNumbers gap date.iso.toList = .ok ((date.year, date.month, date.day), []) := by
    simp [readNumbers, Date.iso, year, month, day, hyphen, readMark, keeps [] rfl, bind,
      Except.bind, pure, Except.pure]
  simp [readDate, numbers, bind, Except.bind, pure, Except.pure]

end Calendar

/-- A text that is nothing but the ISO form of a date holds this date. -/
theorem Date.ofWholeText_iso (date : Date) : Date.ofWholeText date.iso = .ok date :=
  Calendar.readDate_iso (fun _ same => same) date

end Stencil
