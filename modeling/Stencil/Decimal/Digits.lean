/-! # Decimal digits

Natural numbers written in decimal and read back. Writing gives no leading zeros; padding puts a
chosen character in front of what was written, and reading does not mind the zeros.
-/

namespace Stencil.Decimal

/-- The digit for a number below ten. -/
def digitChar (n : Nat) : Char := Char.ofNat ('0'.toNat + n)

/-- The value of a decimal digit. -/
def digitValue (c : Char) : Nat := c.toNat - '0'.toNat

/-- The decimal digits of a number, the most significant first. -/
def digits (n : Nat) : List Char :=
  if n < 10 then [digitChar n] else digits (n / 10) ++ [digitChar (n % 10)]
termination_by n
decreasing_by omega

/-- The number that a run of decimal digits stands for. -/
def value (chars : List Char) : Nat := chars.foldl (fun n c => 10 * n + digitValue c) 0

/-- A text brought to a width by repeating a character in front of it. -/
def padTo (width : Nat) (fill : Char) (chars : List Char) : List Char :=
  List.replicate (width - chars.length) fill ++ chars

/-- The digits in front of a text, and the rest of it. -/
def spanDigits (chars : List Char) : List Char × List Char := chars.span Char.isDigit

/-- A natural number in decimal. -/
def ofNat (n : Nat) : String := String.ofList (digits n)

/-- An integer in decimal, with a minus sign if it is negative. -/
def ofInt (n : Int) : String :=
  if n < 0 then "-" ++ ofNat n.natAbs else ofNat n.natAbs

end Stencil.Decimal
