import Stencil.Decimal.Binary
import Stencil.Decimal.Digits

/-! # Reading doubles

A double in a string is an optional sign followed by `inf`, `infinity` or `nan` in any case, or by
digits with an optional point and an optional exponent. One digit on either side of the point is
enough; the nearest double is taken.
-/

namespace Stencil.Decimal

/-- A text without the sign in front, and whether that was a minus sign. -/
def takeSign : List Char → Bool × List Char
  | '-' :: rest => (true, rest)
  | '+' :: rest => (false, rest)
  | rest => (false, rest)

/-- The exponent at the end of a number: none at all, or a mark and an integer. -/
def readExponent? : List Char → Option Int
  | [] => some 0
  | mark :: rest =>
    if mark = 'e' ∨ mark = 'E' then
      let (negative, ds) := takeSign rest
      if ds ≠ [] ∧ ds.all Char.isDigit then
        some (if negative then -value ds else value ds)
      else none
    else none

/-- The digits behind a point, if there is a point, and the rest. -/
def takeFraction : List Char → List Char × List Char
  | '.' :: rest => spanDigits rest
  | rest => ([], rest)

/-- A number without a sign, from its digits. -/
def readMagnitude? (chars : List Char) : Option Float :=
  let (whole, rest) := spanDigits chars
  let (fraction, rest) := takeFraction rest
  if whole = [] ∧ fraction = [] then none
  else
    (readExponent? rest).map fun exponent =>
      let all := whole ++ fraction
      nearestDecimal (value all) all.length (exponent - fraction.length)

/-- The double that a text stands for. -/
def float? (text : String) : Option Float :=
  let (negative, chars) := takeSign text.toList
  let word := String.ofList (chars.map Char.toLower)
  let magnitude :=
    if word = "inf" ∨ word = "infinity" then some (Float.ofBits 0x7ff0000000000000)
    else if word = "nan" then some (Float.ofBits 0x7ff8000000000000)
    else readMagnitude? chars
  magnitude.map fun x => if negative then -x else x

end Stencil.Decimal
