import Discovery.Decimal.Binary64
import Discovery.Toml.Value
/-!
# Numbers in TOML

Integers have 64 bits with sign and may be written in four bases. Floating point numbers have a fraction, an
exponent, or both. Digits may be parted by single underscores. A number that is too great for its kind is refused,
except that one below every floating point number is minus infinity.
-/
namespace Discovery.Toml

open Decimal (Binary64 isDigit hexValue?)

/-- Digits with single underscores between them, without the underscores. -/
def readRun (digit : Char → Bool) : List Char → Option (List Char × List Char)
  | char :: rest => if digit char then go char rest else none
  | [] => none
where
  go (char : Char) : List Char → Option (List Char × List Char)
    | '_' :: next :: rest =>
      if digit next then (go next rest).map fun (run, rest) => (char :: run, rest) else none
    | '_' :: [] => none
    | next :: rest =>
      if digit next then (go next rest).map fun (run, rest) => (char :: run, rest)
      else some ([char], next :: rest)
    | [] => some ([char], [])

/-- The whole part of a decimal number: a zero, or digits that do not start with one. -/
def readWhole : List Char → Option (List Char × List Char)
  | '0' :: rest => some (['0'], rest)
  | text => readRun isDigit text

def isBase (base : Nat) (char : Char) : Bool :=
  match hexValue? char with
  | some digit => digit < base
  | none => false

def inRange (number : Int) : Bool := -(Decimal.twoTo 63 : Int) ≤ number && number < Decimal.twoTo 63

/-- A natural number to a base, after the letter that names the base. -/
def readBase (base : Nat) (text : List Char) : Option (Value × List Char) := do
  let (run, rest) ← readRun (isBase base) text
  let number : Nat := run.foldl (fun total char => total * base + (hexValue? char).getD 0) 0
  if inRange number then return (.integer number, rest) else none

/-- The digits behind a decimal point, if there is one. -/
def readPlaces : List Char → Option (Option (List Char) × List Char)
  | '.' :: rest => do
    let (run, rest) ← readRun isDigit rest
    return (some run, rest)
  | text => some (none, text)

/-- The sign of a number and what follows it. -/
def takeSign : List Char → Bool × List Char
  | '-' :: rest => (true, rest)
  | '+' :: rest => (false, rest)
  | text => (false, text)

/-- The exponent of ten behind an `e`, if there is one. -/
def readPower : List Char → Option (Option Int × List Char)
  | char :: rest =>
    if char = 'e' ∨ char = 'E' then do
      let (negative, rest) := takeSign rest
      let (run, rest) ← readRun isDigit rest
      let size : Int := Decimal.value run
      return (some (if negative then -size else size), rest)
    else some (none, char :: rest)
  | [] => some (none, [])

/-- A decimal number after its sign. -/
def readDecimal (negative : Bool) (text : List Char) : Option (Value × List Char) := do
  let (whole, rest) ← readWhole text
  let (places, rest) ← readPlaces rest
  let (power, rest) ← readPower rest
  if places.isNone ∧ power.isNone then
    let size : Int := Decimal.value whole
    let number := if negative then -size else size
    if inRange number then return (.integer number, rest) else none
  else
    let behind := places.getD []
    let number := Binary64.ofDecimal negative (Decimal.value (whole ++ behind)) (power.getD 0 - behind.length)
    if number = .infinite false then none else return (.float number, rest)

/-- A number, a date or a time, if the text starts with a digit or a sign. -/
def readNumber (text : List Char) : Option (Value × List Char) :=
  if startsDate text || startsTime text then (readDateTime text).map fun (value, rest) => (.moment value, rest)
  else match text with
    | '0' :: 'x' :: rest => readBase 16 rest
    | '0' :: 'o' :: rest => readBase 8 rest
    | '0' :: 'b' :: rest => readBase 2 rest
    | _ =>
      let (negative, rest) := takeSign text
      match rest with
      | 'i' :: 'n' :: 'f' :: rest => some (.float (.infinite negative), rest)
      | 'n' :: 'a' :: 'n' :: rest => some (.float .nan, rest)
      | rest => readDecimal negative rest

end Discovery.Toml
