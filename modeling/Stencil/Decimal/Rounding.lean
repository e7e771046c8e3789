/-! # Rounding quotients

The nearest whole number to a quotient of natural numbers, with the rule for quotients that lie
halfway between two of them.
-/

namespace Stencil.Decimal

/-- Where a quotient halfway between two whole numbers goes. -/
inductive Tie where
  /-- To the even one. -/
  | even
  /-- To the larger one. -/
  | away
deriving DecidableEq, Repr

/-- The whole number nearest to `num / den`. -/
def roundDiv (tie : Tie) (num den : Nat) : Nat :=
  let down := num / den
  let twice := 2 * (num % den)
  if twice < den then down
  else if den < twice then down + 1
  else match tie with
    | .even => down + down % 2
    | .away => down + 1

/-- The number nearest to `n` that has at most `bits` significant bits; halfway cases go to the even
one. -/
def roundBits (bits n : Nat) : Nat :=
  let unit := Nat.pow 2 (n.log2 + 1 - bits)
  roundDiv .even n unit * unit

theorem roundDiv_of_dvd (tie : Tie) {num den : Nat} (positive : 0 < den) (whole : den ∣ num) :
    roundDiv tie num den = num / den := by
  simp [roundDiv, Nat.mod_eq_zero_of_dvd whole, positive]

end Stencil.Decimal
