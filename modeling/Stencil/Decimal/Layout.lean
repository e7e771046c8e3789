import Stencil.Decimal.Shortest

/-! # Doubles as text

Two ways to lay out the shortest decimal of a double: `plain`, which never uses an exponent and
writes whole numbers without a point, and `marked`, which always shows a point or an exponent and
is what JSON text holds.
-/

namespace Stencil.Decimal

/-- The digits of a decimal with a point behind the first `place` of them, zeros filled in. -/
def positional (digits : List Char) (place : Int) : List Char :=
  if place ≤ 0 then '0' :: '.' :: List.replicate (-place).toNat '0' ++ digits
  else if digits.length ≤ place.toNat then
    digits ++ List.replicate (place.toNat - digits.length) '0'
  else digits.take place.toNat ++ '.' :: digits.drop place.toNat

/-- Without an exponent, however many zeros that takes. -/
def Scaled.plain (scaled : Scaled) : List Char :=
  let ds := digits scaled.significand
  positional ds (ds.length + scaled.exponent)

/-- With a point or an exponent: positional from `0.00001` up to sixteen digits in front of the
point, else one digit in front of the point and an exponent that always has a sign. -/
def Scaled.marked (scaled : Scaled) : List Char :=
  let ds := digits scaled.significand
  let place : Int := ds.length + scaled.exponent
  if -5 < place ∧ place ≤ 16 then
    positional ds place ++ (if ds.length ≤ place then ['.', '0'] else [])
  else
    let power := place - 1
    let sign := if power < 0 then '-' else '+'
    let tail := if ds.length = 1 then [] else '.' :: ds.tail
    ds.take 1 ++ tail ++ 'e' :: sign :: digits power.natAbs

/-- The text of a double: a sign, and the layout of its shortest decimal or of a zero. -/
def floatText (tie : Tie) (zero : String) (layout : Scaled → List Char) (x : Float) : Option String :=
  (Binary.ofFloat? x).map fun binary =>
    let sign := if binary.negative then "-" else ""
    if binary.mantissa = 0 then sign ++ zero
    else sign ++ String.ofList (layout (shortest tie binary.mantissa binary.exponent))

/-- A double as plain text: whole numbers have no point, and no number has an exponent. -/
def ofFloat (x : Float) : String :=
  match floatText .away "0" Scaled.plain x with
  | some text => text
  | none => if x.isNaN then "NaN" else if x < 0 then "-inf" else "inf"

/-- A finite double as it stands in JSON text. -/
def markedFloat? (x : Float) : Option String := floatText .even "0.0" Scaled.marked x

end Stencil.Decimal
