import Stencil.Json.Basic
import Stencil.Decimal.Binary
import Stencil.Decimal.Digits
import Stencil.Decimal.Limits

/-! # Numbers in JSON text

A numeral is a number as it is written. Its value is taken with one double multiplication or
division: the digits are gathered in 64 bits, the ones that no longer fit are dropped, and the
result is scaled by a power of ten. The double so found can differ from the nearest one.
-/

namespace Stencil.Json

/-- A number as it is written: the digits before the point, those behind it, and the exponent. -/
structure Numeral where
  negative : Bool
  whole : List Char
  fraction : List Char
  pointed : Bool
  exponent : Option (Bool × List Char)

namespace Numeral

open Decimal

/-- Digits gathered in 64 bits, and the digits from the first one that does not fit. -/
def gather (n : Nat) : List Char → Nat × List Char
  | [] => (n, [])
  | d :: ds =>
    if Limit.bits64 ≤ 10 * n + digitValue d then (n, d :: ds) else gather (10 * n + digitValue d) ds

/-- A power of ten as a double. -/
def powerOfTen (k : Nat) : Float := nearest (Nat.pow 10 k) 1

/-- A double divided by a power of ten, at most 308 places at a time. -/
def divide (x : Float) (k : Nat) : Float :=
  if k ≤ 308 then x / powerOfTen k
  else if x == 0 then x
  else divide (x / powerOfTen 308) (k - 308)
termination_by k

/-- Digits times a power of ten, unless that is too large for a double. -/
def scale? (n : Nat) (exponent : Int) : Option Float :=
  let x := nearest n 1
  if exponent < 0 then some (divide x exponent.natAbs)
  else if 308 < exponent then (if n = 0 then some x else none)
  else
    let product := x * powerOfTen exponent.toNat
    if product.isInf then none else some product

/-- The size of a number with a point, an exponent or more digits than fit. -/
def magnitude? (n : Nat) (exponent : Int) : Option (Bool × List Char) → Option Float
  | none => scale? n exponent
  | some (negative, ds) =>
    if Limit.bits31 ≤ value ds then
      if n ≠ 0 ∧ !negative then none else some (nearest 0 1)
    else scale? n (if negative then exponent - value ds else exponent + value ds)

/-- The number that a numeral stands for: a whole number if it has neither point nor exponent and
fits, else a double. Minus zero is a double. -/
def value? (numeral : Numeral) : Option Number :=
  let (n, dropped) := gather 0 numeral.whole
  if !numeral.pointed && numeral.exponent.isNone && dropped.isEmpty then
    if !numeral.negative then some (.integer n)
    else if n ≠ 0 ∧ n ≤ Limit.bits63 then some (.integer (-(n : Int)))
    else some (.float (-(nearest n 1)))
  else
    let (n, unread) := gather n numeral.fraction
    let places : Int := dropped.length - (numeral.fraction.length - unread.length : Nat)
    (magnitude? n places numeral.exponent).map fun x =>
      .float (if numeral.negative then -x else x)

/-- The sign in front of a numeral. -/
def takeMinus : List Char → Bool × List Char
  | '-' :: rest => (true, rest)
  | rest => (false, rest)

/-- The digits in front of the point: a zero, or digits that do not begin with one. -/
def takeWhole? (chars : List Char) : Option (List Char × List Char) :=
  match spanDigits chars with
  | ([], _) => none
  | (ds, rest) => if ds.head? = some '0' ∧ ds.length ≠ 1 then none else some (ds, rest)

/-- The point and the digits behind it, if there is a point. -/
def takeFraction? : List Char → Option (Bool × List Char × List Char)
  | '.' :: rest =>
    match spanDigits rest with
    | ([], _) => none
    | (ds, behind) => some (true, ds, behind)
  | rest => some (false, [], rest)

/-- The sign of an exponent. -/
def takeExponentSign : List Char → Bool × List Char
  | '+' :: rest => (false, rest)
  | '-' :: rest => (true, rest)
  | rest => (false, rest)

/-- The exponent, if there is one. -/
def takeExponent? (chars : List Char) : Option (Option (Bool × List Char) × List Char) :=
  match chars with
  | mark :: rest =>
    if mark = 'e' ∨ mark = 'E' then
      let (negative, rest) := takeExponentSign rest
      match spanDigits rest with
      | ([], _) => none
      | (ds, behind) => some (some (negative, ds), behind)
    else some (none, chars)
  | [] => some (none, [])

/-- The numeral that a text begins with, and the rest of the text. -/
def read? (chars : List Char) : Option (Numeral × List Char) := do
  let (negative, rest) := takeMinus chars
  let (whole, rest) ← takeWhole? rest
  let (pointed, fraction, rest) ← takeFraction? rest
  let (exponent, rest) ← takeExponent? rest
  return (⟨negative, whole, fraction, pointed, exponent⟩, rest)

end Numeral

end Stencil.Json
