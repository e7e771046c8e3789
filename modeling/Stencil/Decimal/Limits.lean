/-! # Limits of fixed-width numbers

The numbers that no longer fit words of 31, 63, 64 and 127 bits, written out so that comparing with
one takes no arithmetic.
-/

namespace Stencil.Limit

/-- Two to the 31st: integers of 32 bits lie below it. -/
def bits31 : Nat := 2147483648

/-- Two to the 63rd: integers of 64 bits lie below it. -/
def bits63 : Nat := 9223372036854775808

/-- Two to the 64th: natural numbers of 64 bits lie below it. -/
def bits64 : Nat := 18446744073709551616

/-- Two to the 127th: integers of 128 bits lie below it. -/
def bits127 : Nat := 170141183460469231731687303715884105728

example : bits31 = 2 ^ 31 ∧ bits63 = 2 ^ 63 ∧ bits64 = 2 ^ 64 ∧ bits127 = 2 ^ 127 := by decide

/-- Whether an integer has a representation whose magnitude stays below a limit; the limit itself is
reached on the negative side only. -/
def fits (limit : Nat) (n : Int) : Bool := -(limit : Int) ≤ n && n < limit

end Stencil.Limit
