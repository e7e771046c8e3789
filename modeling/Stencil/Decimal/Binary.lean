import Stencil.Decimal.Limits
import Stencil.Decimal.Rounding

/-! # Doubles in exact arithmetic

A finite double is a signed whole number times a power of two. `ofFloat?` takes it apart, and
`nearest` finds the double closest to a quotient, so that decimal text can be written and read
without any arithmetic on doubles.
-/

namespace Stencil.Decimal

/-- A finite double: the mantissa times two to the exponent, below zero if `negative`. -/
structure Binary where
  negative : Bool
  mantissa : Nat
  exponent : Int
deriving DecidableEq, Repr

/-- The exponent of the smallest positive double. -/
def Binary.least : Int := -1074

/-- The leading bit of a normal mantissa, which the bit pattern does not hold: two to the 52nd. -/
def Binary.hiddenBit : Nat := 4503599627370496

/-- The exponent field of what is not finite: eleven bits, all set. -/
def Binary.fullField : Nat := 2047

/-- The bit pattern of infinity. -/
def Binary.infinity : Nat := Binary.fullField * Binary.hiddenBit

/-- A finite double taken apart; nothing for an infinity or for what is no number. -/
def Binary.ofFloat? (x : Float) : Option Binary :=
  let bits := x.toBits.toNat
  let negative := bits / Limit.bits63 == 1
  let field : Nat := bits / hiddenBit % (fullField + 1)
  let fraction := bits % hiddenBit
  if field = fullField then none
  else if field = 0 then some ⟨negative, fraction, least⟩
  else some ⟨negative, hiddenBit + fraction, (field : Int) - 1 + least⟩

/-- Two to an integer power as a quotient: the factor above the line and the one below. -/
def powerOfTwo (e : Int) : Nat × Nat := (Nat.pow 2 e.toNat, Nat.pow 2 (-e).toNat)

/-- The power of two below or at a positive quotient. -/
def floorLog2 (num den : Nat) : Int :=
  let guess : Int := num.log2 - den.log2
  let (up, down) := powerOfTwo guess
  if den * up ≤ num * down then guess else guess - 1

/-- The double nearest to a quotient, infinity if it is too large. Halfway cases go to the even
mantissa. The bit pattern counts the doubles below, so a mantissa rounded up to the next power of
two and one below the normal range need no case of their own. -/
def nearest (num den : Nat) : Float :=
  if num = 0 then Float.ofBits 0
  else
    let exponent := max (floorLog2 num den - 52) Binary.least
    let (up, down) := powerOfTwo exponent
    let mantissa := roundDiv .even (num * down) (den * up)
    let pattern := (exponent - Binary.least).toNat * Binary.hiddenBit + mantissa
    Float.ofBits (UInt64.ofNat (min pattern Binary.infinity))

/-- The double nearest to an integer. -/
def ofInteger (n : Int) : Float := if n < 0 then -nearest n.natAbs 1 else nearest n.natAbs 1

/-- The double nearest to `mantissa * 10 ^ exponent`. Beyond 310 digits in front of the point or
330 zeros behind it the answer does not depend on the digits. -/
def nearestDecimal (mantissa : Nat) (digitCount : Nat) (exponent : Int) : Float :=
  if mantissa = 0 then Float.ofBits 0
  else if digitCount + exponent < -330 then Float.ofBits 0
  else if 310 < exponent then Float.ofBits (UInt64.ofNat Binary.infinity)
  else nearest (mantissa * Nat.pow 10 exponent.toNat) (Nat.pow 10 (-exponent).toNat)

end Stencil.Decimal
