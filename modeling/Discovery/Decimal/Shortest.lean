import Discovery.Decimal.Binary64
import Discovery.Decimal.Digits
/-!
# Shortest decimals

The decimal with the fewest digits that reads back as a given binary64 value, and among those the one
nearest to it. Which of two equally near ones that is, each format settles for itself. On the grid of decimals with a given number of digits only the two neighbours of the value
have to be tried: if any grid point reads back, one of them does. Seventeen digits always suffice.
-/
namespace Discovery.Decimal

/-- The number `significand · 10 ^ exponent`. -/
structure Scaled where
  significand : Nat
  exponent : Int
  deriving DecidableEq, Repr, Inhabited

namespace Scaled

/-- Drop trailing zeros; the fuel is the number of digits that may be dropped. -/
def trim : Nat → Scaled → Scaled
  | 0, number => number
  | fuel + 1, number =>
    if number.significand % 10 = 0 ∧ number.significand ≠ 0 then
      trim fuel ⟨number.significand / 10, number.exponent + 1⟩
    else number

/-- The exponent of the leading digit. -/
def leading (number : Scaled) : Int :=
  number.exponent + ((digits number.significand).length : Int) - 1

/-- All digits written out, with a fraction of at least one digit. -/
def positional (number : Scaled) : List Char :=
  let run := digits number.significand
  if 0 ≤ number.exponent then run ++ List.replicate number.exponent.toNat '0' ++ ".0".toList
  else
    let places := (-number.exponent).toNat
    if places < run.length then
      run.take (run.length - places) ++ '.' :: run.drop (run.length - places)
    else "0.".toList ++ List.replicate (places - run.length) '0' ++ run

/-- One leading digit, the others behind a point, and a signed exponent. -/
def scientific (number : Scaled) : List Char :=
  let exponent := number.leading
  let run := match digits number.significand with
    | [] => []
    | [only] => [only]
    | first :: rest => first :: '.' :: rest
  run ++ (if 0 ≤ exponent then "e+".toList else "e-".toList) ++ digits exponent.natAbs

end Scaled

/-- Which of two equally near neighbours is taken: the one with the even last digit, or the greater one. -/
inductive Tie where
  | toEven
  | upward
  deriving DecidableEq, Repr

/-- The upper of the neighbours `down` and `down + 1` is taken, given how far the value is from either. -/
def Tie.takesUpper (tie : Tie) (down deficit excess : Nat) : Bool :=
  if deficit = excess then
    match tie with
    | toEven => down % 2 = 1
    | upward => true
  else excess < deficit

namespace Binary64

/-- The exponent of ten just below a positive value `mantissa · 2 ^ exponent`. -/
def leadingExponent (mantissa : Nat) (exponent : Int) : Int :=
  let atLeast (power : Int) : Bool :=
    let ratio := unscaled mantissa 1 (-exponent)
    if 0 ≤ power then tenTo power.toNat * ratio.2 ≤ ratio.1
    else ratio.2 ≤ ratio.1 * tenTo (-power).toNat
  let guess := ((mantissa.log2 : Int) + exponent) * 30103 / 100000
  if atLeast (guess + 1) then guess + 1 else if atLeast guess then guess else guess - 1

/-- The neighbour on the grid `10 ^ power` that reads back, the nearer one if both do. All comparisons
are made in units of a quarter of `2 ^ exponent`. -/
def neighbour? (tie : Tie) (mantissa : Nat) (exponent power : Int) : Option Nat :=
  let lowGap : Nat := if mantissa = fullMantissa ∧ leastExponent < exponent then 1 else 2
  let scale := unscaled 1 1 (-(exponent - 2))
  let grid : Nat × Nat := if 0 ≤ power then (tenTo power.toNat, 1) else (1, tenTo (-power).toNat)
  -- a quarter unit is `scale.1 / scale.2`, a grid step `grid.1 / grid.2`
  let unit := scale.1 * grid.2
  let step := grid.1 * scale.2
  let centre := 4 * mantissa * unit
  let down := centre / step
  let up := down + 1
  let closed := mantissa % 2 = 0
  let low := (4 * mantissa - lowGap) * unit
  let high := (4 * mantissa + 2) * unit
  let inside (point : Nat) : Bool :=
    if closed then low ≤ point * step && point * step ≤ high
    else low < point * step && point * step < high
  let below := inside down
  let above := inside up
  if below && above then
    let deficit := centre - down * step
    let excess := up * step - centre
    some (if tie.takesUpper down deficit excess then up else down)
  else if below then some down
  else if above then some up
  else none

/-- Try grids of growing precision. -/
def search (tie : Tie) (mantissa : Nat) (exponent leading : Int) : Nat → Nat → Scaled
  | 0, precision => ⟨mantissa, exponent + precision⟩
  | fuel + 1, precision =>
    let power := leading - precision
    match neighbour? tie mantissa exponent power with
    | some point => Scaled.trim 20 ⟨point, power⟩
    | none => search tie mantissa exponent leading fuel (precision + 1)

/-- The shortest decimal of a positive value `mantissa · 2 ^ exponent`. -/
def shortest (tie : Tie) (mantissa : Nat) (exponent : Int) : Scaled :=
  if mantissa = 0 then ⟨0, 0⟩ else search tie mantissa exponent (leadingExponent mantissa exponent) 17 0

end Binary64

end Discovery.Decimal
