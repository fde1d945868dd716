import Discovery.Decimal.Digits
import Discovery.Json.Value
/-!
# Reading JSON

A recursive descent over the characters of a text. Integers outside the range from `-2^63` to `2^64 - 1`
are read as floating point numbers, and so is `-0`, which no integer can express. The readers keep the
fields of an object as they stand; a whole document is then put into canonical form. They carry fuel that
every call spends; a text's own length always suffices, because each call consumes a character.
-/
namespace Discovery.Json

open Decimal (Binary64 takeDigits hexValue?)

def isBlank (char : Char) : Bool := char = ' ' || char = '\t' || char = '\n' || char = '\r'

def skipBlank (text : List Char) : List Char := text.dropWhile isBlank

def readUnit : List Char → Option (Nat × List Char)
  | a :: b :: c :: d :: rest => do
    let a ← hexValue? a
    let b ← hexValue? b
    let c ← hexValue? c
    let d ← hexValue? d
    return (((a * 16 + b) * 16 + c) * 16 + d, rest)
  | _ => none

/-- A `\u` escape after its letter; a character beyond U+FFFF takes two of them. -/
def readUnicode (text : List Char) : Option (Char × List Char) := do
  let (high, rest) ← readUnit text
  if 0xD800 ≤ high ∧ high < 0xDC00 then
    match rest with
    | '\\' :: 'u' :: rest =>
      let (low, rest) ← readUnit rest
      if 0xDC00 ≤ low ∧ low < 0xE000 then
        return (Char.ofNat (0x10000 + (high - 0xD800) * 0x400 + (low - 0xDC00)), rest)
      else none
    | _ => none
  else if 0xDC00 ≤ high ∧ high < 0xE000 then none
  else return (Char.ofNat high, rest)

/-- The character an escape stands for, after its backslash. -/
def readEscape : List Char → Option (Char × List Char)
  | '"' :: rest => some ('"', rest)
  | '\\' :: rest => some ('\\', rest)
  | '/' :: rest => some ('/', rest)
  | 'n' :: rest => some ('\n', rest)
  | 'r' :: rest => some ('\r', rest)
  | 't' :: rest => some ('\t', rest)
  | 'b' :: rest => some ('\x08', rest)
  | 'f' :: rest => some ('\x0c', rest)
  | 'u' :: rest => readUnicode rest
  | _ => none

/-- The characters of a string up to its closing quote. -/
def readChars : Nat → List Char → Option (List Char × List Char)
  | 0, _ => none
  | _ + 1, [] => none
  | fuel + 1, char :: rest =>
    if char = '"' then some ([], rest)
    else if char = '\\' then do
      let (char, rest) ← readEscape rest
      let (chars, rest) ← readChars fuel rest
      return (char :: chars, rest)
    else if char.toNat < 32 then none
    else do
      let (chars, rest) ← readChars fuel rest
      return (char :: chars, rest)

def readQuoted (text : List Char) : Option (String × List Char) := do
  let (chars, rest) ← readChars (text.length + 1) text
  return (String.ofList chars, rest)

/-- The whole part of a number: a single zero, or digits that do not start with one. -/
def readWhole (text : List Char) : Option (List Char × List Char) :=
  match takeDigits text with
  | ([], _) => none
  | (['0'], rest) => some (['0'], rest)
  | ('0' :: _ :: _, _) => none
  | (run, rest) => some (run, rest)

/-- The digits behind a decimal point, none if there is no point. -/
def readFraction : List Char → Option (Option (List Char) × List Char)
  | '.' :: rest =>
    match takeDigits rest with
    | ([], _) => none
    | (run, rest) => some (some run, rest)
  | text => some (none, text)

/-- The signed exponent behind an `e`, none if there is none. -/
def readExponent : List Char → Option (Option Int × List Char)
  | char :: rest =>
    if char = 'e' || char = 'E' then
      let (negative, rest) := match rest with
        | '-' :: rest => (true, rest)
        | '+' :: rest => (false, rest)
        | rest => (false, rest)
      match takeDigits rest with
      | ([], _) => none
      | (run, rest) =>
        let size : Int := Decimal.value run
        some (some (if negative then -size else size), rest)
    else some (none, char :: rest)
  | [] => some (none, [])

/-- Digits from the left are appended to a number as long as it stays below `2^64`; then come those left over. -/
def appendFitting (number : Nat) : List Char → Nat × List Char
  | [] => (number, [])
  | digit :: rest =>
    let next := 10 * number + Decimal.digitValue digit
    if next < Decimal.twoTo 64 then appendFitting next rest else (number, digit :: rest)

/-- The floating point number nearest to a power of ten. -/
def powerOfTen (power : Int) : Binary64 := Binary64.ofDecimal false 1 power

/-- The floating point number for the digits before and behind a point and an exponent of ten. Only the leading
digits that fit 64 bits count. The number they make up is rounded, and so is the product with a power of ten or the
quotient by it, so that the last binary digit need not be that of the nearest number. -/
def approximate (negative : Bool) (whole behind : List Char) (exponent : Int) : Binary64 :=
  let (kept, surplus) := appendFitting 0 whole
  let (kept, dropped) := appendFitting kept behind
  let power := exponent + surplus.length + dropped.length - behind.length
  let number := Binary64.ofDecimal negative kept 0
  if kept = 0 then number
  else if 0 ≤ power then number.product (powerOfTen power)
  else if -308 ≤ power then number.quotient (powerOfTen (-power))
  else (number.quotient (powerOfTen 308)).quotient (powerOfTen (-308 - power))

/-- An integer that 64 bits express with or without sign. -/
def wholeNumber? (negative : Bool) (size : Nat) : Option Int :=
  if negative then if 0 < size ∧ size ≤ Decimal.twoTo 63 then some (-size) else none
  else if size < Decimal.twoTo 64 then some size
  else none

/-- A number without fraction and exponent is an integer if it can be. -/
def readNumber (text : List Char) : Option (Json × List Char) := do
  let (negative, text) := match text with
    | '-' :: rest => (true, rest)
    | text => (false, text)
  let (whole, text) ← readWhole text
  let (fraction, text) ← readFraction text
  let (exponent, text) ← readExponent text
  let number? :=
    if fraction.isNone && exponent.isNone then wholeNumber? negative (Decimal.value whole) else none
  match number? with
  | some number => return (integer number, text)
  | none =>
    match approximate negative whole (fraction.getD []) (exponent.getD 0) with
    | .finite sign mantissa power => return (float (.finite sign mantissa power), text)
    | _ => none

mutual

def readValue : Nat → List Char → Option (Json × List Char)
  | 0, _ => none
  | fuel + 1, text =>
    match skipBlank text with
    | 'n' :: 'u' :: 'l' :: 'l' :: rest => some (null, rest)
    | 't' :: 'r' :: 'u' :: 'e' :: rest => some (boolean true, rest)
    | 'f' :: 'a' :: 'l' :: 's' :: 'e' :: rest => some (boolean false, rest)
    | '"' :: rest => do
      let (text, rest) ← readQuoted rest
      return (string text, rest)
    | '[' :: rest =>
      match skipBlank rest with
      | ']' :: rest => some (array [], rest)
      | rest => do
        let (items, rest) ← readItems fuel rest
        return (array items, rest)
    | '{' :: rest =>
      match skipBlank rest with
      | '}' :: rest => some (object [], rest)
      | rest => do
        let (pairs, rest) ← readPairs fuel rest
        return (object pairs, rest)
    | rest => readNumber rest

/-- Items up to the closing bracket. -/
def readItems : Nat → List Char → Option (List Json × List Char)
  | 0, _ => none
  | fuel + 1, text => do
    let (item, rest) ← readValue fuel text
    match skipBlank rest with
    | ',' :: rest =>
      let (items, rest) ← readItems fuel rest
      return (item :: items, rest)
    | ']' :: rest => return ([item], rest)
    | _ => none

/-- Key and value pairs up to the closing brace. -/
def readPairs : Nat → List Char → Option (List (String × Json) × List Char)
  | 0, _ => none
  | fuel + 1, text =>
    match skipBlank text with
    | '"' :: rest => do
      let (key, rest) ← readQuoted rest
      match skipBlank rest with
      | ':' :: rest =>
        let (value, rest) ← readValue fuel rest
        match skipBlank rest with
        | ',' :: rest =>
          let (pairs, rest) ← readPairs fuel rest
          return ((key, value) :: pairs, rest)
        | '}' :: rest => return ([(key, value)], rest)
        | _ => none
      | _ => none
    | _ => none

end

/-! What a value is read as whose first character is known, numbers apart. -/

theorem readValue_null (fuel : Nat) (rest : List Char) :
    readValue (fuel + 1) ("null".toList ++ rest) = some (null, rest) := rfl

theorem readValue_boolean (value : Bool) (fuel : Nat) (rest : List Char) :
    readValue (fuel + 1) ((if value then "true" else "false").toList ++ rest) = some (boolean value, rest) := by
  cases value <;> rfl

theorem readValue_quote (fuel : Nat) (rest : List Char) :
    readValue (fuel + 1) ('"' :: rest) = do
      let (text, rest) ← readQuoted rest
      return (string text, rest) := rfl

theorem readValue_bracket (fuel : Nat) (rest : List Char) :
    readValue (fuel + 1) ('[' :: rest) =
      match skipBlank rest with
      | ']' :: rest => some (array [], rest)
      | rest => do
        let (items, rest) ← readItems fuel rest
        return (array items, rest) := rfl

theorem readValue_brace (fuel : Nat) (rest : List Char) :
    readValue (fuel + 1) ('\x7b' :: rest) =
      match skipBlank rest with
      | '\x7d' :: rest => some (object [], rest)
      | rest => do
        let (pairs, rest) ← readPairs fuel rest
        return (object pairs, rest) := rfl

/-- The value of a whole text, in canonical form. -/
def ofText? (text : String) : Option Json := do
  let chars := text.toList
  let (value, rest) ← readValue (2 * chars.length + 2) chars
  if (skipBlank rest).isEmpty then return value.canonical else none

end Discovery.Json
