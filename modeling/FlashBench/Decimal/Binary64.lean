/-!
# Double-precision numbers

A decimal number is read as the nearest binary number of 53 significant bits; of two equally near
ones the one with an even significand is taken. All of it is arithmetic on natural numbers.
-/

namespace FlashBench

/-- A number `digits * 10 ^ exponent`. -/
structure Decimal where
  digits : Nat
  exponent : Int
deriving DecidableEq, Repr, Inhabited

/-- Ten to the power of `n`. -/
def tenTo (n : Nat) : Nat := Nat.pow 10 n

/-- The decimal as a fraction: what is divided. -/
def Decimal.numerator (decimal : Decimal) : Nat := decimal.digits * tenTo decimal.exponent.toNat

/-- The decimal as a fraction: what it is divided by. -/
def Decimal.denominator (decimal : Decimal) : Nat := tenTo (-decimal.exponent).toNat

/-- A double-precision number. -/
inductive Binary64 where
  | nan (negative : Bool)
  | infinite (negative : Bool)
  /-- The number `significand * 2 ^ exponent` in units of `2 ^ -1074`. The significand has at most
  53 bits, and exactly 53 unless the exponent is zero. -/
  | finite (negative : Bool) (significand exponent : Nat)
deriving DecidableEq, Repr, Inhabited

namespace Binary64

/-- Significands lie below this number. -/
def significandBound : Nat := 1 <<< 53

/-- The largest exponent of a finite number. -/
def maxExponent : Nat := 2045

/-- How many units make one. -/
def unitsPerOne : Nat := 1 <<< 1074

/-- The whole number nearest to `a / b`; of two equally near ones the even one. -/
def roundedQuotient (a b : Nat) : Nat :=
  let quotient := a / b
  let twice := 2 * (a % b)
  if twice < b then quotient
  else if b < twice then quotient + 1
  else quotient + quotient % 2

/-- The finite number with a significand that rounding may have made one bit too long, or infinity
when the exponent is too large. -/
def normalized (negative : Bool) (significand exponent : Nat) : Binary64 :=
  let (significand, exponent) :=
    if significand < significandBound then (significand, exponent)
    else (significand / 2, exponent + 1)
  if exponent ≤ maxExponent then finite negative significand exponent else infinite negative

/-- The number nearest to `a / b` units. -/
def ofUnits (negative : Bool) (a b : Nat) : Binary64 :=
  let exponent := (a / b).log2 - 52
  normalized negative (roundedQuotient a (b <<< exponent)) exponent

/-- Decimals of at least this magnitude are infinite, and those below its inverse are zero. -/
def magnitudeBound : Int := 400

/-- The number nearest to a decimal one. -/
def ofDecimal (negative : Bool) (decimal : Decimal) : Binary64 :=
  let magnitude := decimal.exponent + (Nat.toDigits 10 decimal.digits).length
  if decimal.digits = 0 ∨ magnitude < -magnitudeBound then finite negative 0 0
  else if magnitude > magnitudeBound then infinite negative
  else ofUnits negative (decimal.numerator * unitsPerOne) decimal.denominator

/-- The sign bit. -/
def isNegative : Binary64 → Bool
  | nan negative => negative
  | infinite negative => negative
  | finite negative _ _ => negative

end Binary64

end FlashBench
