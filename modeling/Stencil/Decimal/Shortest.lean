import Stencil.Decimal.Binary
import Stencil.Decimal.Digits

/-! # Shortest decimals

The decimal with the fewest digits that reads back as a given double. Around a double lies the
interval of reals that round to it, its ends included if the mantissa is even. Grids of multiples
of a power of ten are tried from coarse to fine: on the first grid that meets the interval, one of
the double's two neighbours lies in it, and the nearer one is taken.
-/

namespace Stencil.Decimal

/-- A whole number times a power of ten. -/
structure Scaled where
  significand : Nat
  exponent : Int
deriving DecidableEq, Repr

/-- The reals that round to a double, and the double itself, in units of a quarter of its last
place. -/
structure Interval where
  low : Nat
  middle : Nat
  high : Nat
  closed : Bool
  exponent : Int

/-- The interval around a double. Below a power of two the doubles lie twice as close. -/
def Interval.around (mantissa : Nat) (exponent : Int) : Interval :=
  let narrow := mantissa = Binary.hiddenBit ∧ Binary.least < exponent
  { low := 4 * mantissa - (if narrow then 1 else 2)
    middle := 4 * mantissa
    high := 4 * mantissa + 2
    closed := mantissa % 2 = 0
    exponent := exponent - 2 }

/-- The neighbour of the middle on the grid of multiples of `10 ^ k` that lies in the interval, the
nearer one if both do. -/
def Interval.hit? (around : Interval) (tie : Tie) (k : Int) : Option Nat :=
  let up := Nat.pow 2 around.exponent.toNat * Nat.pow 10 (-k).toNat
  let unit := Nat.pow 2 (-around.exponent).toNat * Nat.pow 10 k.toNat
  let middle := around.middle * up
  let down := middle / unit
  let inside (n : Nat) : Bool :=
    if around.closed then around.low * up ≤ n * unit && n * unit ≤ around.high * up
    else around.low * up < n * unit && n * unit < around.high * up
  match inside down, inside (down + 1) with
  | true, true => some (roundDiv tie middle unit)
  | true, false => some down
  | false, true => some (down + 1)
  | false, false => none

/-- The first hit on the grids from `10 ^ k` downwards. -/
def Interval.search (around : Interval) (tie : Tie) : Nat → Int → Scaled
  | 0, k => ⟨around.middle * Nat.pow 2 around.exponent.toNat * Nat.pow 10 (-k).toNat /
      (Nat.pow 2 (-around.exponent).toNat * Nat.pow 10 k.toNat), k⟩
  | steps + 1, k =>
    match around.hit? tie k with
    | some n => ⟨n, k⟩
    | none => around.search tie steps (k - 1)

/-- The shortest decimal for a positive double. The first grid is coarser than the double itself;
seventeen digits always suffice, so the search ends within twenty-two grids. -/
def shortest (tie : Tie) (mantissa : Nat) (exponent : Int) : Scaled :=
  let coarse := (mantissa.log2 + exponent) * 1233 / 4096 + 2
  (Interval.around mantissa exponent).search tie 22 coarse

end Stencil.Decimal
