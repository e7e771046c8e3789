import Stencil.Decimal.Layout
import Stencil.Decimal.Limits

/-! # Amounts of money

Amounts are counted in whole cents. The whole part of a double is split off before its fraction is
turned into cents, so a large amount keeps its cents. Amounts beyond 128 bits are held at the
nearest one that fits.
-/

namespace Stencil.Money

/-- The nearest number that has 128 bits. -/
def clamp (n : Int) : Int := max (-Limit.bits127) (min (Limit.bits127 - 1) n)

/-- The cents in the fraction `rest / unit` of an amount, half a cent going up. The product with a
hundred is rounded to the 53 bits of a double first. -/
def fractionCents (rest unit : Nat) : Nat :=
  Decimal.roundDiv .away (Decimal.roundBits 53 (rest * 100)) unit

/-- A finite double in cents. -/
def centsOf (amount : Decimal.Binary) : Int :=
  let (up, down) := Decimal.powerOfTwo amount.exponent
  let size := amount.mantissa * up
  let sign : Int := if amount.negative then -1 else 1
  clamp (clamp (clamp (sign * (size / down : Nat)) * 100) + sign * fractionCents (size % down) down)

/-- An amount in cents, if it is a number. -/
def cents? (amount : Float) : Option Int := (Decimal.Binary.ofFloat? amount).map centsOf

/-- Cents as an amount: the sign, the symbol, and two places behind the point. -/
def text (symbol : String) (cents : Int) : String :=
  let sign := if cents < 0 then "-" else ""
  let places := Decimal.padTo 2 '0' (Decimal.digits (cents.natAbs % 100))
  sign ++ symbol ++ String.ofList (Decimal.digits (cents.natAbs / 100) ++ '.' :: places)

/-- An amount under a currency symbol; what is no number is written plainly. -/
def format (symbol : String) (amount : Float) : String :=
  match cents? amount with
  | some cents => text symbol cents
  | none => Decimal.ofFloat amount

end Stencil.Money
