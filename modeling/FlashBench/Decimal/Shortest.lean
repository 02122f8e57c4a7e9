import FlashBench.Decimal.Binary64

/-!
# Shortest decimals

A double-precision number is written with **the fewest digits that read back** as the same number;
among the decimals with so many digits the nearest one is taken, and of two equally near ones the
larger. The point stands at its place however large or small the number is: no exponent is ever
written.
-/

namespace FlashBench

namespace Binary64

/-- The decimals that read back as a positive number, and the number itself: ends of an interval in
quarters of a unit. The ends belong to it when the significand is even. -/
structure Neighbourhood where
  below : Nat
  centre : Nat
  above : Nat
  closed : Bool

/-- The neighbourhood of a positive number. Below a power of two numbers lie closer together. -/
def neighbourhood (significand exponent : Nat) : Neighbourhood :=
  let quarter := 1 <<< exponent
  let down := if significand = significandBound / 2 ∧ exponent > 0 then quarter else 2 * quarter
  { below := 4 * significand * quarter - down
    centre := 4 * significand * quarter
    above := 4 * significand * quarter + 2 * quarter
    closed := significand % 2 == 0 }

/-- Quarters of a unit that make one. -/
def quartersPerOne : Nat := 4 * unitsPerOne

/-- `digits` at the place `exponent` lies in the neighbourhood. -/
def Neighbourhood.admits (around : Neighbourhood) (decimal : Decimal) : Bool :=
  let value := decimal.numerator * quartersPerOne
  let scale := decimal.denominator
  if around.closed then around.below * scale ≤ value && value ≤ around.above * scale
  else around.below * scale < value && value < around.above * scale

/-- The number of digits in front of the point, negative when zeros follow the point first. -/
def leadingPlace (around : Neighbourhood) : Int :=
  (Nat.toDigits 10 (around.centre * tenTo 400 / quartersPerOne)).length - 400

/-- The decimal with `count` digits that is nearest to the number, if one reads back. -/
def withDigits (around : Neighbourhood) (count : Nat) : Option Decimal :=
  let exponent : Int := leadingPlace around - count
  let value := around.centre * tenTo (-exponent).toNat
  let scale := quartersPerOne * tenTo exponent.toNat
  let low : Decimal := ⟨value / scale, exponent⟩
  let high : Decimal := ⟨value / scale + 1, exponent⟩
  match around.admits low, around.admits high with
  | true, true => some (if 2 * (value % scale) < scale then low else high)
  | true, false => some low
  | false, true => some high
  | false, false => none

/-- The shortest decimal of a positive number; seventeen digits always read back. -/
def shortest (significand exponent : Nat) : Decimal :=
  let around := neighbourhood significand exponent
  ((List.range 17).findSome? fun i => withDigits around (i + 1)).getD ⟨0, 0⟩

end Binary64

namespace Decimal

/-- The decimal with its point at its place. -/
def positional (decimal : Decimal) : String :=
  let digits := Nat.toDigits 10 decimal.digits
  if 0 ≤ decimal.exponent then
    String.ofList (digits ++ List.replicate decimal.exponent.toNat '0')
  else
    let places := (-decimal.exponent).toNat
    let digits := List.replicate (places + 1 - digits.length) '0' ++ digits
    let whole := digits.take (digits.length - places)
    let fraction := (digits.drop (digits.length - places)).reverse.dropWhile (· == '0')
    String.ofList (if fraction.isEmpty then whole else whole ++ '.' :: fraction.reverse)

end Decimal

/-- A double-precision number as its shortest decimal; a whole number ends in `.0`. What is no
number is spelled `nan`, and its sign is not shown. -/
def Binary64.text (nan : String) : Binary64 → String
  | .nan _ => nan
  | .infinite negative => if negative then "-inf" else "inf"
  | .finite negative significand exponent =>
    let digits :=
      if significand = 0 then "0" else (Binary64.shortest significand exponent).positional
    (if negative then "-" else "") ++ digits ++ (if digits.toList.contains '.' then "" else ".0")

end FlashBench
