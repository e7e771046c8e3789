import Mathlib.Data.List.TakeDrop
import Stencil.Decimal.Digits

/-! # Decimal digits read back

What is written for a number is a run of digits and stands for this number, however many zeros are
put in front of it. Without such zeros there is one way to write a number
(`IsNumeral.eq_digits`).
-/

namespace Stencil.Decimal

theorem isDigit_digitChar : ∀ n < 10, (digitChar n).isDigit = true := by decide

theorem digitValue_digitChar : ∀ n < 10, digitValue (digitChar n) = n := by decide

theorem exists_digitChar {c : Char} (digit : c.isDigit = true) : ∃ n < 10, c = digitChar n := by
  have bounds : 48 ≤ c.toNat ∧ c.toNat ≤ 57 := by
    simpa [Char.isDigit, UInt32.le_iff_toNat_le] using digit
  refine ⟨c.toNat - 48, by omega, ?_⟩
  rw [digitChar, show '0'.toNat + (c.toNat - 48) = c.toNat by change 48 + _ = _; omega]
  exact (Char.ofNat_toNat c).symm

theorem digits_ne_nil (n : Nat) : digits n ≠ [] := by
  unfold digits
  split <;> simp

theorem isDigit_of_mem_digits (n : Nat) : ∀ c ∈ digits n, c.isDigit = true := by
  fun_induction digits n with
  | case1 n small =>
    intro c member
    rw [List.mem_singleton.mp member]
    exact isDigit_digitChar n small
  | case2 n large ih =>
    intro c member
    rcases List.mem_append.mp member with front | last
    · exact ih c front
    · rw [List.mem_singleton.mp last]
      exact isDigit_digitChar _ (Nat.mod_lt n (by decide))

/-- The digits are those of the standard notation. -/
theorem digits_eq_toDigits (n : Nat) : digits n = Nat.toDigits 10 n := by
  have same : ∀ n < 10, digitChar n = n.digitChar := by decide
  fun_induction digits n with
  | case1 n small => rw [Nat.toDigits_of_lt_base small, same n small]
  | case2 n large ih =>
    rw [Nat.toDigits_eq_if (by decide), if_neg large, ih, same _ (Nat.mod_lt n (by decide))]

theorem ofNat_eq_toString (n : Nat) : Decimal.ofNat n = toString n := by
  rw [Decimal.ofNat, digits_eq_toDigits]
  rfl

theorem value_append_singleton (front : List Char) (last : Char) :
    value (front ++ [last]) = 10 * value front + digitValue last := by
  simp [value]

/-- The digits of a number stand for it. -/
theorem value_digits (n : Nat) : value (digits n) = n := by
  fun_induction digits n with
  | case1 n small => simpa [value] using digitValue_digitChar n small
  | case2 n large ih =>
    rw [value_append_singleton, ih, digitValue_digitChar _ (Nat.mod_lt n (by decide))]
    omega

theorem value_zeros_append (count : Nat) (chars : List Char) :
    value (List.replicate count '0' ++ chars) = value chars := by
  induction count with
  | zero => rfl
  | succ count ih =>
    rw [List.replicate_succ, List.cons_append]
    exact ih

theorem value_padTo (width : Nat) (chars : List Char) : value (padTo width '0' chars) = value chars :=
  value_zeros_append _ chars

theorem isDigit_of_mem_padTo (width n : Nat) :
    ∀ c ∈ padTo width '0' (digits n), c.isDigit = true := by
  intro c member
  rcases List.mem_append.mp member with zero | digit
  · rw [(List.mem_replicate.mp zero).2]
    decide
  · exact isDigit_of_mem_digits n c digit

/-- The digits in front of a text end where the rest begins with something else. -/
theorem spanDigits_digits_append {ds rest : List Char} (digit : ∀ c ∈ ds, c.isDigit = true)
    (stops : ∀ c ∈ rest.head?, c.isDigit = false) : spanDigits (ds ++ rest) = (ds, rest) := by
  rw [spanDigits, List.span_eq_takeWhile_dropWhile, List.takeWhile_append_of_pos digit,
    List.dropWhile_append_of_pos digit]
  cases rest with
  | nil => simp
  | cons c rest => simp [stops c rfl]

theorem length_digits_le {n width : Nat} (positive : 0 < width) (bound : n < Nat.pow 10 width) :
    (digits n).length ≤ width := by
  induction width generalizing n with
  | zero => cases positive
  | succ width ih =>
    unfold digits
    split
    · simp
    · next large =>
      have shorter : n / 10 < Nat.pow 10 width := by
        change n < Nat.pow 10 width * 10 at bound
        omega
      have room : 0 < width := by
        cases width with
        | zero =>
          change n < 10 at bound
          exact absurd bound large
        | succ width => omega
      have length := ih room shorter
      rw [List.length_append, List.length_singleton]
      omega

/-- A number that fits is brought to exactly the width. -/
theorem length_padTo {n width : Nat} (positive : 0 < width) (bound : n < Nat.pow 10 width) :
    (padTo width '0' (digits n)).length = width := by
  have length := length_digits_le positive bound
  rw [padTo, List.length_append, List.length_replicate]
  omega

/-! ## Numerals -/

/-- A run of decimal digits without a needless zero in front. -/
structure IsNumeral (chars : List Char) : Prop where
  nonempty : chars ≠ []
  digit : ∀ c ∈ chars, c.isDigit = true
  unpadded : chars.head? = some '0' → chars.length = 1

theorem digitChar_digitValue {c : Char} (digit : c.isDigit = true) :
    digitChar (digitValue c) = c := by
  obtain ⟨n, small, rfl⟩ := exists_digitChar digit
  rw [digitValue_digitChar n small]

theorem digitValue_lt_ten {c : Char} (digit : c.isDigit = true) : digitValue c < 10 := by
  obtain ⟨n, small, rfl⟩ := exists_digitChar digit
  rw [digitValue_digitChar n small]
  exact small

/-- What begins with another digit than zero stands for a positive number. -/
theorem value_pos {c : Char} (digit : c.isDigit = true) (other : c ≠ '0') (rest : List Char) :
    0 < value (c :: rest) := by
  have begins : 0 < digitValue c := by
    apply Nat.pos_of_ne_zero
    intro zero
    apply other
    rw [← digitChar_digitValue digit, zero]
    rfl
  have grows (chars : List Char) : ∀ n, 0 < n →
      0 < chars.foldl (fun n c => 10 * n + digitValue c) n := by
    induction chars with
    | nil => exact fun n positive => positive
    | cons c chars ih => exact fun n positive => ih _ (Nat.add_pos_left (by omega) _)
  exact grows rest _ (Nat.add_pos_right _ begins)

theorem head?_digits_of_pos {n : Nat} (positive : 0 < n) : (digits n).head? ≠ some '0' := by
  fun_induction digits n with
  | case1 n small =>
    have other : ∀ n < 10, 0 < n → digitChar n ≠ '0' := by decide
    simpa using other n small positive
  | case2 n large ih =>
    obtain ⟨first, rest, same⟩ := List.exists_cons_of_ne_nil (digits_ne_nil (n / 10))
    have front := ih (by omega)
    rw [same] at front ⊢
    exact front

theorem isNumeral_digits (n : Nat) : IsNumeral (digits n) where
  nonempty := digits_ne_nil n
  digit := isDigit_of_mem_digits n
  unpadded := by
    intro zero
    rcases Nat.eq_zero_or_pos n with rfl | positive
    · rw [digits]
      rfl
    · exact absurd zero (head?_digits_of_pos positive)

/-- A numeral is a single digit, or the numeral of a positive number with a digit behind it. -/
theorem IsNumeral.exists_last {chars : List Char} (numeral : IsNumeral chars) :
    ∃ front last, chars = front ++ [last] ∧ last.isDigit = true ∧
      (front = [] ∨ IsNumeral front ∧ 0 < value front) := by
  obtain rfl | ⟨front, last, rfl⟩ := List.eq_nil_or_concat chars
  · exact absurd rfl numeral.nonempty
  rw [List.concat_eq_append] at numeral ⊢
  refine ⟨front, last, rfl, numeral.digit last (by simp), ?_⟩
  cases front with
  | nil => exact .inl rfl
  | cons first rest =>
    have other : first ≠ '0' := by
      rintro rfl
      simpa using numeral.unpadded rfl
    have digit : ∀ c ∈ first :: rest, c.isDigit = true :=
      fun c member => numeral.digit c (List.mem_append_left _ member)
    refine .inr ⟨⟨List.cons_ne_nil _ _, digit, fun zero => ?_⟩, ?_⟩
    · exact absurd (Option.some.inj zero) other
    · exact value_pos (digit first List.mem_cons_self) other rest

/-- The digits of a number are its only numeral. -/
theorem IsNumeral.eq_digits {chars : List Char} (numeral : IsNumeral chars) :
    chars = digits (value chars) := by
  generalize stands : value chars = n
  fun_induction digits n generalizing chars with
  | case1 n small =>
    obtain ⟨front, last, rfl, digit, rfl | ⟨-, positive⟩⟩ := numeral.exists_last
    · change 10 * 0 + digitValue last = n at stands
      have same : digitValue last = n := by omega
      rw [← same, digitChar_digitValue digit, List.nil_append]
    · rw [value_append_singleton] at stands
      omega
  | case2 n large ih =>
    obtain ⟨front, last, rfl, digit, rest⟩ := numeral.exists_last
    have small := digitValue_lt_ten digit
    rw [value_append_singleton] at stands
    obtain rfl | ⟨inner, -⟩ := rest
    · change 10 * 0 + digitValue last = n at stands
      omega
    · have whole : value front = n / 10 := by omega
      have unit : digitValue last = n % 10 := by omega
      rw [← ih inner whole, ← unit, digitChar_digitValue digit]

theorem value_zero_cons (chars : List Char) : value ('0' :: chars) = value chars :=
  value_zeros_append 1 chars

/-- Digits are what is written for their value in as many places. -/
theorem padTo_digits_value {ds : List Char} (nonempty : ds ≠ [])
    (digit : ∀ c ∈ ds, c.isDigit = true) : padTo ds.length '0' (digits (value ds)) = ds := by
  induction ds with
  | nil => exact absurd rfl nonempty
  | cons c rest ih =>
    have inner : ∀ c ∈ rest, c.isDigit = true := fun c member =>
      digit c (List.mem_cons_of_mem _ member)
    by_cases numeral : c = '0' ∧ rest ≠ []
    · obtain ⟨rfl, longer⟩ := numeral
      have same := ih longer inner
      have short : (digits (value rest)).length ≤ rest.length := by
        have length := congrArg List.length same
        rw [padTo, List.length_append, List.length_replicate] at length
        omega
      rw [value_zero_cons, padTo, List.length_cons, Nat.succ_sub short, List.replicate_succ,
        List.cons_append]
      exact congrArg ('0' :: ·) same
    · have unpadded : (c :: rest).head? = some '0' → (c :: rest).length = 1 := by
        intro zero
        obtain rfl := Option.some.inj zero
        have single : rest = [] := by simpa using numeral
        rw [single]
        rfl
      have only := IsNumeral.eq_digits ⟨List.cons_ne_nil c rest, digit, unpadded⟩
      rw [← only, padTo, Nat.sub_self, List.replicate_zero, List.nil_append]

end Stencil.Decimal
