import Mathlib.Data.List.TakeDrop
import Stencil.Json.Numeral

/-! # Numbers inside JSON text

A number that stands alone is read in the same way when something follows it, as long as that does
not begin with a character that could go on with the number.
-/

namespace Stencil.Json.Numeral

open Decimal

/-- Whether a number in front of a text ends there: the text does not begin with a digit, a point,
the mark of an exponent or a sign. -/
def EndsBefore (rest : List Char) : Prop :=
  ∀ c ∈ rest.head?, c.isDigit = false ∧ c ∉ ['.', 'e', 'E', '+', '-']

variable {chars behind rest : List Char}

theorem spanDigits_append (ends : EndsBefore rest) (chars : List Char) :
    spanDigits (chars ++ rest) = ((spanDigits chars).1, (spanDigits chars).2 ++ rest) := by
  simp only [spanDigits, List.span_eq_takeWhile_dropWhile]
  induction chars with
  | nil =>
    cases rest with
    | nil => rfl
    | cons c rest => simp [(ends c rfl).1]
  | cons c chars ih =>
    by_cases digit : c.isDigit = true
    · simpa [digit] using ih
    · simp [digit]

theorem takeMinus_append (ends : EndsBefore rest) (chars : List Char) :
    takeMinus (chars ++ rest) = ((takeMinus chars).1, (takeMinus chars).2 ++ rest) := by
  cases chars with
  | cons c chars =>
    rw [List.cons_append]
    unfold takeMinus
    split <;> simp_all
  | nil =>
    have plain : ∀ tail, rest ≠ '-' :: tail := by
      rintro tail rfl
      simpa using ends '-' rfl
    rw [List.nil_append, takeMinus, takeMinus]
    · rfl
    · simp
    · exact plain

theorem takeWhole?_append {ds : List Char} (ends : EndsBefore rest)
    (taken : takeWhole? chars = some (ds, behind)) :
    takeWhole? (chars ++ rest) = some (ds, behind ++ rest) := by
  rw [takeWhole?, spanDigits_append ends]
  rw [takeWhole?] at taken
  rcases same : spanDigits chars with ⟨_ | ⟨d, front⟩, back⟩
  · rw [same] at taken
    cases taken
  · rw [same] at taken
    by_cases zero : (d :: front).head? = some '0' ∧ (d :: front).length ≠ 1
    · simp only [if_pos zero] at taken
      cases taken
    · simp only [if_neg zero] at taken ⊢
      cases taken
      rfl

theorem takeFraction?_append {pointed : Bool} {ds : List Char} (ends : EndsBefore rest)
    (taken : takeFraction? chars = some (pointed, ds, behind)) :
    takeFraction? (chars ++ rest) = some (pointed, ds, behind ++ rest) := by
  cases chars with
  | nil =>
    have plain : ∀ tail, rest ≠ '.' :: tail := by
      rintro tail rfl
      simpa using ends '.' rfl
    cases taken
    rw [List.nil_append, takeFraction?.eq_2 rest plain]
  | cons c chars =>
    by_cases point : c = '.'
    · subst point
      rw [List.cons_append, takeFraction?, spanDigits_append ends]
      rw [takeFraction?] at taken
      rcases same : spanDigits chars with ⟨_ | ⟨d, front⟩, back⟩
      · rw [same] at taken
        cases taken
      · rw [same] at taken
        cases taken
        rfl
    · rw [takeFraction?.eq_2 _ (by simp [point])] at taken
      cases taken
      rw [List.cons_append, takeFraction?.eq_2 _ (by simp [point])]

theorem takeExponentSign_append (ends : EndsBefore rest) (chars : List Char) :
    takeExponentSign (chars ++ rest) =
      ((takeExponentSign chars).1, (takeExponentSign chars).2 ++ rest) := by
  cases chars with
  | cons c chars =>
    rw [List.cons_append]
    unfold takeExponentSign
    split <;> simp_all
  | nil =>
    have plain : (∀ tail, rest ≠ '+' :: tail) ∧ ∀ tail, rest ≠ '-' :: tail := by
      constructor
      · rintro tail rfl
        simpa using ends '+' rfl
      · rintro tail rfl
        simpa using ends '-' rfl
    rw [List.nil_append, takeExponentSign.eq_3 rest plain.1 plain.2]
    rfl

theorem takeExponent?_append {exponent : Option (Bool × List Char)} (ends : EndsBefore rest)
    (taken : takeExponent? chars = some (exponent, behind)) :
    takeExponent? (chars ++ rest) = some (exponent, behind ++ rest) := by
  cases chars with
  | nil =>
    cases taken
    cases rest with
    | nil => rfl
    | cons c rest =>
      have plain : ¬ (c = 'e' ∨ c = 'E') := by
        rintro (rfl | rfl)
        · simpa using ends 'e' rfl
        · simpa using ends 'E' rfl
      simp [takeExponent?, plain]
  | cons mark chars =>
    by_cases power : mark = 'e' ∨ mark = 'E'
    · simp only [takeExponent?, if_pos power] at taken
      simp only [List.cons_append, takeExponent?, if_pos power, takeExponentSign_append ends,
        spanDigits_append ends]
      rcases same : spanDigits (takeExponentSign chars).2 with ⟨_ | ⟨d, front⟩, back⟩
      · rw [same] at taken
        cases taken
      · rw [same] at taken
        cases taken
        rfl
    · simp only [takeExponent?, if_neg power] at taken
      cases taken
      simp only [List.cons_append, takeExponent?, if_neg power]

/-- A number is read as if nothing followed it. -/
theorem read?_append {numeral : Numeral} (ends : EndsBefore rest)
    (read : read? chars = some (numeral, behind)) :
    read? (chars ++ rest) = some (numeral, behind ++ rest) := by
  simp only [read?, Option.bind_eq_bind, Option.bind_eq_some_iff] at read
  obtain ⟨⟨whole, front⟩, taken, ⟨pointed, fraction, middle⟩, point, ⟨exponent, back⟩, mark, made⟩ :=
    read
  cases made
  simp [read?, takeMinus_append ends, takeWhole?_append ends taken, takeFraction?_append ends point,
    takeExponent?_append ends mark]

/-- A number begins with a minus sign or a digit. -/
theorem exists_cons_of_read? {numeral : Numeral} (read : read? chars = some (numeral, behind)) :
    ∃ c tail, chars = c :: tail ∧ (c = '-' ∨ c.isDigit = true) := by
  cases chars with
  | nil => cases read
  | cons c tail =>
    refine ⟨c, tail, rfl, ?_⟩
    by_cases minus : c = '-'
    · exact .inl minus
    · by_cases digit : c.isDigit = true
      · exact .inr digit
      · simp [read?, takeMinus, minus, takeWhole?, spanDigits, List.span_eq_takeWhile_dropWhile,
          digit] at read

end Stencil.Json.Numeral
