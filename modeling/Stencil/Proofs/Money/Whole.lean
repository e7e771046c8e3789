import Stencil.Proofs.Decimal.Rational
import Stencil.Proofs.Money.Written

/-! # Doubles that are whole amounts

A double that stands for a whole number is written with this number and no cents as long as a
hundred times the number has 128 bits. Doubles reach far beyond that, and there the amount is held at
the nearest one that has 128 bits (`format_whole`), so doubles of very different size are written
alike.
-/

namespace Stencil.Money

open Decimal

theorem clamp_eq_self_iff {n : Int} : clamp n = n ↔ Limit.fits Limit.bits127 n = true := by
  simp only [Limit.fits, Bool.and_eq_true, decide_eq_true_eq]
  unfold clamp Limit.bits127
  omega

theorem clamp_of_le {n : Int} (above : Limit.bits127 ≤ n) :
    clamp n = (Limit.bits127 - 1 : Nat) := by
  unfold clamp
  unfold Limit.bits127 at above ⊢
  omega

theorem clamp_of_lt {n : Int} (below : n < -(Limit.bits127 : Int)) :
    clamp n = -(Limit.bits127 : Int) := by
  unfold clamp
  unfold Limit.bits127 at below ⊢
  omega

/-- Holding the units and the cents to 128 bits one after the other comes to the same. -/
theorem clamp_hundredfold (n : Int) : clamp (clamp (clamp n * 100) + 0) = clamp (n * 100) := by
  simp only [clamp, Limit.bits127]
  omega

theorem fractionCents_zero {unit : Nat} (positive : 0 < unit) : fractionCents 0 unit = 0 := by
  have nothing : roundBits 53 (0 * 100) = 0 := by decide
  rw [fractionCents, nothing, roundDiv_of_dvd .away positive (Nat.dvd_zero unit), Nat.zero_div]

theorem centsOf_eq (b : Binary) {size : Nat}
    (scaled : b.mantissa * (powerOfTwo b.exponent).1 = size) :
    centsOf b = clamp (clamp (clamp (b.unit * (size / (powerOfTwo b.exponent).2 : Nat)) * 100) +
      b.unit * fractionCents (size % (powerOfTwo b.exponent).2) (powerOfTwo b.exponent).2) := by
  rw [← scaled]
  rfl

/-- The cents of a whole number are a hundred times the number, held to 128 bits. -/
theorem centsOf_of_rational {b : Binary} {n : Int} (whole : b.rational = n) :
    centsOf b = clamp (n * 100) := by
  obtain ⟨size, signed⟩ := b.whole_of_rational whole
  have positive := powerOfTwo_snd_pos b.exponent
  rw [centsOf_eq b size, Nat.mul_div_cancel _ positive, Nat.mul_mod_left,
    fractionCents_zero positive, signed, Int.natCast_zero, Int.mul_zero, clamp_hundredfold]

theorem format_of_rational? (symbol : String) {x : Float} {n : Int}
    (whole : rational? x = some (n : ℚ)) : format symbol x = text symbol (clamp (n * 100)) := by
  rw [rational?_eq_map, Option.map_eq_some_iff] at whole
  obtain ⟨b, taken, stands⟩ := whole
  rw [format, cents?, taken, Option.map_some, centsOf_of_rational stands]

/-- The size of the last amount above zero that has 128 bits. -/
theorem sizeText_most :
    sizeText (Limit.bits127 - 1) = "1701411834604692317316873037158841057.27" := by
  decide +kernel

/-- The size of the last amount below zero that has 128 bits. -/
theorem sizeText_least : sizeText Limit.bits127 = "1701411834604692317316873037158841057.28" := by
  decide +kernel

/-- A double that stands for a whole number is written as this number exactly if a hundred times the
number has 128 bits. Beyond them all doubles are written as the last amount that has. -/
theorem format_whole (symbol : String) {x : Float} {n : Int} (whole : rational? x = some (n : ℚ)) :
    (format symbol x = wholeText symbol n ↔ Limit.fits Limit.bits127 (n * 100) = true) ∧
    (Limit.bits127 ≤ n * 100 →
      format symbol x = symbol ++ "1701411834604692317316873037158841057.27") ∧
    (n * 100 < -(Limit.bits127 : Int) →
      format symbol x = "-" ++ symbol ++ "1701411834604692317316873037158841057.28") := by
  rw [format_of_rational? symbol whole]
  refine ⟨?_, ?_, ?_⟩
  · rw [← text_hundredfold, ← clamp_eq_self_iff]
    exact (text_injective symbol).eq_iff
  · intro above
    rw [clamp_of_le above, text_eq, Int.natAbs_natCast, sizeText_most, sign, if_neg (by decide),
      String.empty_append]
  · intro below
    rw [clamp_of_lt below, text_eq, Int.natAbs_neg, Int.natAbs_natCast, sizeText_least, sign,
      if_pos (by decide)]

/-- The least power of two that has no 128 bits in cents. -/
theorem rational?_tooLarge :
    rational? 2658455991569831745807614120560689152 = some ((2 ^ 121 : Int) : ℚ) := by
  decide +kernel

/-- The largest power of two that is written exactly, below zero; the next one; and the double that
lies furthest below zero. -/
theorem format_whole_powers :
    (rational? (-1329227995784915872903807060280344576) = some ((-2 ^ 120 : Int) : ℚ) ∧
      format "€" (-1329227995784915872903807060280344576) =
        "-€1329227995784915872903807060280344576.00") ∧
    (rational? 2658455991569831745807614120560689152 = some ((2 ^ 121 : Int) : ℚ) ∧
      format "€" 2658455991569831745807614120560689152 =
        "€1701411834604692317316873037158841057.27") ∧
    (rational? (-1.7976931348623157e308) = some ((-(2 ^ 53 - 1) * 2 ^ 971 : Int) : ℚ) ∧
      format "€" (-1.7976931348623157e308) = "-€1701411834604692317316873037158841057.28") := by
  have small : rational? (-1329227995784915872903807060280344576) =
      some ((-2 ^ 120 : Int) : ℚ) := by
    decide +kernel
  have last : rational? (-1.7976931348623157e308) =
      some ((-(2 ^ 53 - 1) * 2 ^ 971 : Int) : ℚ) := by
    decide +kernel
  refine ⟨⟨small, ?_⟩, ⟨rational?_tooLarge, ?_⟩, last, ?_⟩
  · rw [(format_whole "€" small).1.mpr (by decide)]
    decide +kernel
  · rw [(format_whole "€" rational?_tooLarge).2.1 (by decide)]
    rfl
  · rw [(format_whole "€" last).2.2 (by decide +kernel)]
    rfl

/-- Not every whole number is written as it is. -/
theorem not_forall_format_whole : ¬ ∀ (symbol : String) (x : Float) (n : Int),
    rational? x = some (n : ℚ) → format symbol x = wholeText symbol n := by
  intro all
  have same := all "" _ _ rational?_tooLarge
  rw [← text_hundredfold, format_of_rational? "" rational?_tooLarge] at same
  exact absurd (text_injective "" same) (by decide)

end Stencil.Money
