import Mathlib.Data.List.Basic
import Stencil.Format
import Stencil.Proofs.Decimal.Digits

/-! # Amounts of money read back

Whatever the currency symbol is, the text of an amount says which amount it is. The minus sign
stands in front of the symbol, and a symbol may itself begin with one or end in digits. Even so only
a negative amount begins with a minus sign and the symbol, because behind the symbol there is a digit
(`not_signed_prefix`).

Amounts are counted without bounds. Counted in words of 128 bits, which wrap around, every amount
that such a word holds has the same text (`wordText_eq_text`): nothing overflows on the way.
-/

namespace Stencil

namespace Money

open Decimal

/-- The minus sign of a number below zero. -/
def sign (n : Int) : String := if n < 0 then "-" else ""

/-- An amount without its sign and the symbol. -/
def sizeText (size : Nat) : String :=
  String.ofList (digits (size / 100) ++ '.' :: padTo 2 '0' (digits (size % 100)))

/-- A whole number of units under a currency symbol. -/
def wholeText (symbol : String) (n : Int) : String :=
  sign n ++ symbol ++ toString n.natAbs ++ ".00"

/-- How an amount is written: a minus sign if it is negative, the symbol, the whole units without
needless zeros in front, a point, and two digits for the cents. -/
inductive Written (symbol : String) (cents : Int) : String → Prop where
  | intro {whole places : List Char} (numeral : IsNumeral whole)
      (units : value whole = cents.natAbs / 100) (digit : ∀ c ∈ places, c.isDigit = true)
      (two : places.length = 2) (rest : value places = cents.natAbs % 100) :
      Written symbol cents (sign cents ++ symbol ++ String.ofList (whole ++ '.' :: places))

/-- The number of cents that digits, a point and two more digits stand for. -/
def readSize? (chars : List Char) : Option Nat :=
  match spanDigits chars with
  | (whole, '.' :: places) =>
    if whole ≠ [] ∧ places.length = 2 ∧ places.all Char.isDigit then
      some (100 * value whole + value places)
    else none
  | _ => none

/-- The amount that a text stands for under a currency symbol. -/
def ofText? (symbol text : String) : Option Int :=
  match text.toList.dropPrefix? ('-' :: symbol.toList) with
  | some rest => (readSize? rest).map fun size : Nat => -(size : Int)
  | none =>
    ((text.toList.dropPrefix? symbol.toList).bind readSize?).map fun size : Nat => (size : Int)

/-- The text of an amount, computed in words of 128 bits. -/
def wordText (symbol : String) (cents : BitVec 128) : String :=
  let size := cents.abs
  let places := padTo 2 '0' (digits (size % 100#128).toNat)
  (if cents.slt 0#128 then "-" else "") ++ symbol ++
    String.ofList (digits (size / 100#128).toNat ++ '.' :: places)

/-- An integer of 64 bits as a word of 128 bits. -/
def widen (n : Int64) : BitVec 128 := n.toBitVec.signExtend 128

variable {symbol : String}

/-! ## What is written -/

theorem text_eq (symbol : String) (cents : Int) :
    text symbol cents = sign cents ++ symbol ++ sizeText cents.natAbs :=
  rfl

theorem written_text (symbol : String) (cents : Int) : Written symbol cents (text symbol cents) := by
  have small : cents.natAbs % 100 < Nat.pow 10 2 := Nat.mod_lt _ (by decide)
  rw [text_eq, sizeText]
  apply Written.intro
  · exact isNumeral_digits _
  · exact value_digits _
  · exact isDigit_of_mem_padTo 2 _
  · exact length_padTo (by decide) small
  · rw [value_padTo, value_digits]

/-- There is one way to write an amount. -/
theorem Written.eq_text {cents : Int} {t : String} (written : Written symbol cents t) :
    t = text symbol cents := by
  obtain @⟨whole, places, numeral, units, digit, two, rest⟩ := written
  have front : whole = digits (cents.natAbs / 100) := by
    rw [← units]
    exact numeral.eq_digits
  have nonempty : places ≠ [] := List.ne_nil_of_length_eq_add_one two
  have back : places = padTo 2 '0' (digits (cents.natAbs % 100)) := by
    rw [← rest, ← two]
    exact (padTo_digits_value nonempty digit).symm
  rw [text_eq, sizeText, ← front, ← back]

theorem sizeText_hundredfold (n : Nat) : sizeText (n * 100) = toString n ++ ".00" := by
  have units : n * 100 / 100 = n := Nat.mul_div_cancel n (by decide)
  have rest : n * 100 % 100 = 0 := Nat.mul_mod_left n 100
  have zeros : padTo 2 '0' (digits 0) = ['0', '0'] := by
    rw [digits]
    rfl
  rw [sizeText, units, rest, zeros, ← ofNat_eq_toString, String.ofList_append]
  rfl

theorem text_hundredfold (symbol : String) (n : Int) :
    text symbol (n * 100) = wholeText symbol n := by
  have scaled : n * 100 < 0 ↔ n < 0 := by omega
  have size : (n * 100).natAbs = n.natAbs * 100 := Int.natAbs_mul n 100
  rw [text_eq, size, sizeText_hundredfold, wholeText, ← String.append_assoc]
  simp only [sign, scaled]

/-! ## Reading an amount back -/

theorem readSize?_append {whole places : List Char} (numeral : IsNumeral whole)
    (digit : ∀ c ∈ places, c.isDigit = true) (two : places.length = 2) :
    readSize? (whole ++ '.' :: places) = some (100 * value whole + value places) := by
  have span : spanDigits (whole ++ '.' :: places) = (whole, '.' :: places) :=
    spanDigits_digits_append numeral.digit (by simp)
  have all : places.all Char.isDigit = true := List.all_eq_true.mpr digit
  simp [readSize?, span, numeral.nonempty, two, all]

/-- With a digit behind it, a symbol never reads as a minus sign and itself. -/
theorem not_signed_prefix {symbol rest : List Char} (digit : ∀ c ∈ rest.head?, c.isDigit = true) :
    ¬ '-' :: symbol <+: symbol ++ rest := by
  induction symbol with
  | nil =>
    rintro ⟨behind, rfl⟩
    exact absurd (digit '-' rfl) (by decide)
  | cons c symbol ih =>
    rw [List.cons_append, List.cons_prefix_cons]
    rintro ⟨rfl, longer⟩
    exact ih longer

theorem dropPrefix?_append (front rest : List Char) :
    (front ++ rest).dropPrefix? front = some rest :=
  List.dropPrefix?_eq_some_iff.mpr ⟨front, rfl, beq_self_eq_true front⟩

theorem ofText?_signed (symbol : String) (rest : List Char) :
    ofText? symbol ("-" ++ symbol ++ String.ofList rest) =
      (readSize? rest).map fun size : Nat => -(size : Int) := by
  have chars : ("-" ++ symbol ++ String.ofList rest).toList = ('-' :: symbol.toList) ++ rest := by
    simp
  rw [ofText?, chars, dropPrefix?_append]

theorem ofText?_unsigned (symbol : String) {rest : List Char}
    (digit : ∀ c ∈ rest.head?, c.isDigit = true) :
    ofText? symbol (symbol ++ String.ofList rest) =
      (readSize? rest).map fun size : Nat => (size : Int) := by
  have chars : (symbol ++ String.ofList rest).toList = symbol.toList ++ rest := by simp
  have unsigned : (symbol.toList ++ rest).dropPrefix? ('-' :: symbol.toList) = none := by
    rw [Option.eq_none_iff_forall_ne_some]
    intro behind found
    obtain ⟨front, same, equal⟩ := List.dropPrefix?_eq_some_iff.mp found
    rw [eq_of_beq equal] at same
    exact not_signed_prefix digit ⟨behind, same.symm⟩
  rw [ofText?, chars, unsigned, dropPrefix?_append]
  rfl

/-- An amount is read back from however it is written. -/
theorem Written.ofText?_eq {cents : Int} {t : String} (written : Written symbol cents t) :
    ofText? symbol t = some cents := by
  obtain @⟨whole, places, numeral, units, digit, two, rest⟩ := written
  have size : readSize? (whole ++ '.' :: places) = some cents.natAbs := by
    rw [readSize?_append numeral digit two, units, rest, Nat.div_add_mod]
  by_cases negative : cents < 0
  · have back : -(cents.natAbs : Int) = cents := by omega
    rw [sign, if_pos negative, ofText?_signed, size, Option.map_some, back]
  · have back : (cents.natAbs : Int) = cents := by omega
    have begins : ∀ c ∈ (whole ++ '.' :: places).head?, c.isDigit = true := by
      obtain ⟨first, others, rfl⟩ := List.exists_cons_of_ne_nil numeral.nonempty
      simpa using numeral.digit first List.mem_cons_self
    rw [sign, if_neg negative, String.empty_append, ofText?_unsigned symbol begins, size,
      Option.map_some, back]

theorem ofText?_text (symbol : String) (cents : Int) :
    ofText? symbol (text symbol cents) = some cents :=
  (written_text symbol cents).ofText?_eq

theorem text_injective (symbol : String) : Function.Injective (text symbol) := by
  intro one other same
  have read := ofText?_text symbol one
  rw [same, ofText?_text] at read
  exact (Option.some.inj read).symm

/-! ## Counting in words -/

/-- The size of an amount is a word without a sign. The amount furthest below zero has a size that no
word with a sign holds. -/
theorem toNat_abs (cents : BitVec 128) : cents.abs.toNat = cents.toInt.natAbs := by
  have bound := cents.isLt
  rw [BitVec.toNat_abs, BitVec.toInt_eq_msb_cond]
  split
  · omega
  · rfl

/-- Every amount that a word of 128 bits holds has its text, the one furthest below zero included. -/
theorem wordText_eq_text (symbol : String) (cents : BitVec 128) :
    wordText symbol cents = text symbol cents.toInt := by
  have negative : cents.slt 0#128 = true ↔ cents.toInt < 0 := BitVec.slt_iff_toInt_lt
  rw [wordText, text_eq, sign]
  simp only [negative, BitVec.toNat_udiv, BitVec.toNat_umod, toNat_abs]
  rfl

theorem toInt_widen (n : Int64) : (widen n).toInt = n.toInt :=
  BitVec.toInt_signExtend_of_le (by decide)

/-- An integer of 64 bits fits 128 bits in cents. -/
theorem smulOverflow_widen (n : Int64) : (widen n).smulOverflow 100#128 = false := by
  have low := n.le_toInt
  have high := n.toInt_lt
  have hundred : (100#128).toInt = 100 := by decide
  simp only [BitVec.smulOverflow, toInt_widen, hundred, Bool.or_eq_false_iff,
    decide_eq_false_iff_not]
  omega

theorem toInt_widen_mul (n : Int64) : (widen n * 100#128).toInt = n.toInt * 100 := by
  have fits : ¬ (widen n).smulOverflow 100#128 = true := by simp [smulOverflow_widen]
  rw [BitVec.toInt_mul_of_not_smulOverflow fits, toInt_widen]
  rfl

/-- The text of an amount says which amount it is, whatever the symbol. It is written in the one way
that amounts are written, is read back, and is the same when the amount is counted in words of 128
bits. An integer under the currency hint is an amount without cents: its product with a hundred fits
such a word. -/
theorem text_faithful (symbol : String) :
    Function.Injective (text symbol) ∧
    (∀ (cents : Int) (t : String), t = text symbol cents ↔ Written symbol cents t) ∧
    (∀ cents : Int, ofText? symbol (text symbol cents) = some cents) ∧
    (∀ cents : BitVec 128, wordText symbol cents = text symbol cents.toInt) ∧
    ∀ (others : Options) (n : Int64),
      let options := { others with currencySymbol := symbol }
      (widen n).smulOverflow 100#128 = false ∧
      (Value.integer n).format options .currency = wordText symbol (widen n * 100#128) ∧
      (Value.integer n).format options .currency = wholeText symbol n.toInt := by
  refine ⟨text_injective symbol, ?_, ofText?_text symbol, wordText_eq_text symbol, ?_⟩
  · intro cents t
    constructor
    · rintro rfl
      exact written_text symbol cents
    · exact Written.eq_text
  · intro others n options
    have amount : (Value.integer n).format options .currency = text symbol (n.toInt * 100) := rfl
    refine ⟨smulOverflow_widen n, ?_, ?_⟩
    · rw [amount, wordText_eq_text, toInt_widen_mul]
    · rw [amount, text_hundredfold]

end Money

end Stencil
