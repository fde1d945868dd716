import Discovery.Decimal.Digits
/-!
# Binary64 values

The numbers of the 64-bit binary floating point format, kept as exact dyadic values. A finite value is
`± mantissa · 2 ^ exponent` in canonical form: the mantissa has 53 bits, or fewer at the least exponent.
Reading a decimal rounds the exact quotient once, to nearest with ties to even, so no intermediate
rounding can be wrong. Products and quotients of values are rounded in the same way.
-/
namespace Discovery.Decimal

inductive Binary64 where
  | finite (negative : Bool) (mantissa : Nat) (exponent : Int)
  | infinite (negative : Bool)
  | nan
  deriving DecidableEq, Repr, Inhabited

namespace Binary64

def leastExponent : Int := -1074

def greatestExponent : Int := 971

/-- A mantissa of full width is at least this. -/
def fullMantissa : Nat := twoTo 52

/-- Quotient rounded to the nearest integer, a tie to the even neighbour. -/
def roundQuotient (numerator denominator : Nat) : Nat :=
  let quotient := numerator / denominator
  let twice := 2 * (numerator % denominator)
  if denominator < twice ∨ (twice = denominator ∧ quotient % 2 = 1) then quotient + 1 else quotient

/-- The ratio divided by `2 ^ exponent`, as a pair of numerator and denominator. -/
def unscaled (numerator denominator : Nat) (exponent : Int) : Nat × Nat :=
  if 0 ≤ exponent then (numerator, denominator * twoTo exponent.toNat)
  else (numerator * twoTo (-exponent).toNat, denominator)

/-- The binary64 value nearest to a ratio of natural numbers. -/
def ofRatio (negative : Bool) (numerator denominator : Nat) : Binary64 :=
  if numerator = 0 then finite negative 0 leastExponent
  else
    let guess : Int := (numerator.log2 : Int) - denominator.log2 - 52
    let probe := unscaled numerator denominator guess
    let exponent := max leastExponent (if fullMantissa ≤ probe.1 / probe.2 then guess else guess - 1)
    let ratio := unscaled numerator denominator exponent
    let mantissa := roundQuotient ratio.1 ratio.2
    let (mantissa, exponent) :=
      if mantissa = 2 * fullMantissa then (fullMantissa, exponent + 1) else (mantissa, exponent)
    if greatestExponent < exponent then infinite negative else finite negative mantissa exponent

/-- The binary64 value nearest to `± digits · 10 ^ exponent`. Decimals far outside the range are cut off
before the exact quotient is formed. -/
def ofDecimal (negative : Bool) (digits : Nat) (exponent : Int) : Binary64 :=
  if digits = 0 then finite negative 0 leastExponent
  else
    let magnitude : Int := (digits.log2 * 3 / 10 : Nat) + exponent
    if 400 < magnitude then infinite negative
    else if (digits.log2 / 3 + 1 : Nat) + exponent < -400 then finite negative 0 leastExponent
    else if 0 ≤ exponent then ofRatio negative (digits * tenTo exponent.toNat) 1
    else ofRatio negative digits (tenTo (-exponent).toNat)

def isNegative : Binary64 → Bool
  | finite negative _ _ => negative
  | infinite negative => negative
  | nan => false

/-- The product, rounded once. -/
def product (left right : Binary64) : Binary64 :=
  let negative := left.isNegative != right.isNegative
  match left, right with
  | finite _ m p, finite _ n q =>
    let exact := unscaled (m * n) 1 (-(p + q))
    ofRatio negative exact.1 exact.2
  | finite _ m _, infinite _ => if m = 0 then nan else infinite negative
  | infinite _, finite _ n _ => if n = 0 then nan else infinite negative
  | infinite _, infinite _ => infinite negative
  | nan, _ | _, nan => nan

/-- The quotient, rounded once. -/
def quotient (left right : Binary64) : Binary64 :=
  let negative := left.isNegative != right.isNegative
  match left, right with
  | finite _ m p, finite _ n q =>
    if n = 0 then if m = 0 then nan else infinite negative
    else
      let exact := unscaled m n (q - p)
      ofRatio negative exact.1 exact.2
  | finite .., infinite _ => finite negative 0 leastExponent
  | infinite _, finite .. => infinite negative
  | infinite _, infinite _ | nan, _ | _, nan => nan

end Binary64

end Discovery.Decimal
