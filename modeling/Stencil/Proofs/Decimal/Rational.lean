import Mathlib
import Stencil.Decimal.Binary

/-! # The number that a double stands for

A finite double stands for a rational number. The standard model of doubles says which one
(`rational?`), and a double that is taken apart by its bits stands for the same one
(`rational?_eq_map`). If it is a whole number, nothing remains when its mantissa is brought to the
power of two by multiplying and dividing (`Binary.whole_of_rational`).
-/

namespace Stencil.Decimal

open Float.Model Float.Model.UnpackedFloat

/-- The number that a double stands for, if it is finite. -/
def rational? (x : Float) : Option ℚ :=
  match x.toModel.unpack with
  | .zero _ => some 0
  | .finite sign mantissa exponent _ => some (sign.apply mantissa * 2 ^ exponent)
  | _ => none

/-- The sign of a double as a factor. -/
def Binary.unit (b : Binary) : Int := if b.negative then -1 else 1

/-- The number that a double taken apart stands for. -/
def Binary.rational (b : Binary) : ℚ := b.unit * b.mantissa * 2 ^ b.exponent

/-- A finite double of the standard model taken apart. -/
def Binary.ofUnpacked? : UnpackedFloat → Option Binary
  | .zero sign => some ⟨sign == .negative, 0, Binary.least⟩
  | .finite sign mantissa exponent _ => some ⟨sign == .negative, mantissa, exponent⟩
  | _ => none

/-! ## The fields of the bit pattern -/

theorem toNat_unpackMantissa (bits : BitVec Format.binary64.numBits) :
    (unpackMantissa bits).toNat = bits.toNat % Binary.hiddenBit := by
  simp [unpackMantissa_def, Binary.hiddenBit]

theorem toNat_unpackExponent (bits : BitVec Format.binary64.numBits) :
    (unpackExponent bits).toNat = bits.toNat / Binary.hiddenBit % (Binary.fullField + 1) := by
  simp [unpackExponent_def, Nat.shiftRight_eq_div_pow, Binary.hiddenBit, Binary.fullField]

theorem toNat_unpackSign (bits : BitVec Format.binary64.numBits) :
    (unpackSign bits).toNat = bits.toNat / Limit.bits63 := by
  have bound : bits.toNat < 2 ^ 64 := bits.isLt
  have bit : bits.toNat / Limit.bits63 < 2 := by
    rw [Limit.bits63]
    omega
  have shifted : (unpackSign bits).toNat = bits.toNat / Limit.bits63 % 2 := by
    simp [unpackSign_def, Nat.shiftRight_eq_div_pow, Limit.bits63]
  rw [shifted, Nat.mod_eq_of_lt bit]

theorem toNat_implicit_append (m : BitVec 52) : (1#1 ++ m).toNat = Binary.hiddenBit + m.toNat := by
  rw [BitVec.toNat_append, ← Nat.shiftLeft_add_eq_or_of_lt m.isLt]
  simp [Nat.shiftLeft_eq, Binary.hiddenBit]

theorem beq_ofBitVec (sign : BitVec 1) :
    (Sign.ofBitVec sign == .negative) = (sign.toNat == 1) := by
  revert sign
  decide

/-- The bits of a double are taken apart as the standard model takes them apart. -/
theorem ofFloat?_eq_ofUnpacked? (x : Float) :
    Binary.ofFloat? x = Binary.ofUnpacked? x.toModel.unpack := by
  let bits : BitVec Format.binary64.numBits := x.toModel.toBits.toBitVec
  have pattern : x.toBits.toNat = bits.toNat := rfl
  have full : unpackExponent bits = -1#11 ↔ (unpackExponent bits).toNat = Binary.fullField :=
    ⟨fun same => same ▸ rfl, fun same => BitVec.eq_of_toNat_eq same⟩
  have least : unpackExponent bits = 0#11 ↔ (unpackExponent bits).toNat = 0 :=
    ⟨fun same => same ▸ rfl, fun same => BitVec.eq_of_toNat_eq same⟩
  have bias : (Format.binary64.exponentBias : Int) + (52 : Nat) = 1 - Binary.least := rfl
  change _ = Binary.ofUnpacked? (UnpackedFloat.unpack Format.binary64 bits)
  rw [UnpackedFloat.unpack, Binary.ofFloat?, pattern]
  simp only [← toNat_unpackMantissa, ← toNat_unpackExponent, ← toNat_unpackSign, ← beq_ofBitVec,
    full, least, bias]
  split
  · split <;> rfl
  · split
    · next zero =>
      split
      · next none => simp [none, Binary.ofUnpacked?]
      · simp [zero, Binary.ofUnpacked?]
    · simp only [Binary.ofUnpacked?, toNat_implicit_append]
      congr 2
      omega

theorem apply_eq_unit_mul (sign : Sign) (mantissa : Nat) (exponent : Int) :
    sign.apply mantissa = Binary.unit ⟨sign == .negative, mantissa, exponent⟩ * mantissa := by
  cases sign with
  | negative => exact Int.neg_eq_neg_one_mul _
  | positive => exact (Int.one_mul _).symm

/-- A double stands for the same number when its bits are taken apart. -/
theorem rational?_eq_map (x : Float) : rational? x = (Binary.ofFloat? x).map Binary.rational := by
  rw [ofFloat?_eq_ofUnpacked?, rational?]
  cases x.toModel.unpack with
  | notANumber => rfl
  | infinity => rfl
  | zero => simp [Binary.ofUnpacked?, Binary.rational]
  | finite sign mantissa exponent =>
    simp only [Binary.ofUnpacked?, Option.map_some, Binary.rational,
      apply_eq_unit_mul sign mantissa exponent]
    push_cast
    rfl

/-! ## Whole numbers -/

theorem zpow_mul_powerOfTwo (e : Int) : (2 : ℚ) ^ e * (powerOfTwo e).2 = (powerOfTwo e).1 := by
  have two : (2 : ℚ) ≠ 0 := two_ne_zero
  have split : e + ((-e).toNat : Int) = (e.toNat : Int) := by omega
  change (2 : ℚ) ^ e * ((2 ^ (-e).toNat : Nat) : ℚ) = ((2 ^ e.toNat : Nat) : ℚ)
  push_cast
  rw [← zpow_natCast, ← zpow_natCast, ← zpow_add₀ two, split]

theorem powerOfTwo_snd_pos (e : Int) : 0 < (powerOfTwo e).2 := Nat.two_pow_pos _

/-- If a double stands for a whole number, its mantissa times the factor above the line is the size of
this number times the factor below the line, and the double has the sign of the number. -/
theorem Binary.whole_of_rational {b : Binary} {n : Int} (whole : b.rational = n) :
    b.mantissa * (powerOfTwo b.exponent).1 = n.natAbs * (powerOfTwo b.exponent).2 ∧
      b.unit * n.natAbs = n := by
  have positive := powerOfTwo_snd_pos b.exponent
  have scaled : n * (powerOfTwo b.exponent).2 =
      b.unit * ((b.mantissa * (powerOfTwo b.exponent).1 : Nat) : Int) := by
    have factors := zpow_mul_powerOfTwo b.exponent
    rw [Binary.rational] at whole
    have product : (n : ℚ) * (powerOfTwo b.exponent).2 =
        b.unit * (b.mantissa * (powerOfTwo b.exponent).1) := by
      rw [← whole, mul_assoc, factors, mul_assoc]
    exact_mod_cast product
  generalize (powerOfTwo b.exponent).1 = up at scaled ⊢
  generalize (powerOfTwo b.exponent).2 = down at scaled positive ⊢
  have sign : b.unit.natAbs = 1 := by
    unfold unit
    split <;> rfl
  have size : b.mantissa * up = n.natAbs * down := by
    have sizes := congrArg Int.natAbs scaled
    rw [Int.natAbs_mul, Int.natAbs_mul, sign, Nat.one_mul, Int.natAbs_natCast,
      Int.natAbs_natCast] at sizes
    exact sizes.symm
  refine ⟨size, ?_⟩
  have below : (down : Int) ≠ 0 := by omega
  apply Int.eq_of_mul_eq_mul_right below
  rw [scaled, size, Int.natCast_mul, Int.mul_assoc]

end Stencil.Decimal
