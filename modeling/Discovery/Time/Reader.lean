import Discovery.Decimal.Digits
import Discovery.Text.Blank
import Discovery.Time.Instant
/-!
# Reading instants

A date, a separator, a time of day and an offset, read more loosely than they are written: blanks may stand
before every number and separator, numbers may be short, a year may have a sign and then any number of
digits, the separator may be `T`, `t` or a space, and the offset may be `Z`, `UTC` or a signed one with or
without a colon. Every number is checked against its range as soon as it is read, so the first fault in the
text decides which error is reported.
-/
namespace Discovery.Time

open Decimal (isDigit digitValue)
open Text (skipBlanks)

inductive ReadError where
  | invalid
  | tooShort
  | outOfRange
  | tooLong
  | impossible
  deriving DecidableEq, Repr

def ReadError.message : ReadError → String
  | invalid => "input contains invalid characters"
  | tooShort => "premature end of input"
  | outOfRange => "input is out of range"
  | tooLong => "trailing input"
  | impossible => "no possible date and time matching input"

/-- A reader takes what it understands from the front of a text and leaves the rest. -/
abbrev Reader (α : Type) := List Char → Except ReadError (α × List Char)

/-- Digits may denote at most this. -/
def greatestNumber : Nat := Decimal.twoTo 63 - 1

/-- Continue a number; at most `limit` further digits belong to it. -/
def readDigits : Nat → Nat → Reader Nat
  | 0, total, text => .ok (total, text)
  | _ + 1, total, [] => .ok (total, [])
  | limit + 1, total, char :: rest =>
    if isDigit char then
      let total := total * 10 + digitValue char
      if greatestNumber < total then .error .outOfRange else readDigits limit total rest
    else .ok (total, char :: rest)

/-- A number of at least one and at most `limit` digits. -/
def readNumber (limit : Nat) : Reader Nat
  | [] => .error .tooShort
  | char :: rest => if isDigit char then readDigits limit 0 (char :: rest) else .error .invalid

/-- A number within bounds, after blanks. -/
def readWithin (least greatest : Nat) : Reader Nat := fun text => do
  let (number, rest) ← readNumber 2 (skipBlanks text)
  if least ≤ number ∧ number ≤ greatest then return (number, rest) else throw .outOfRange

/-- A year, which with a sign has any number of digits and without one at most four. -/
def readYear : Reader Int := fun text => do
  let (year, rest) ← match skipBlanks text with
    | '-' :: rest => do
      let (number, after) ← readNumber rest.length rest
      pure (-(number : Int), after)
    | '+' :: rest => do
      let (number, after) ← readNumber rest.length rest
      pure ((number : Int), after)
    | rest => do
      let (number, after) ← readNumber 4 rest
      pure ((number : Int), after)
  if -(Decimal.twoTo 31 : Int) ≤ year ∧ year < Decimal.twoTo 31 then return (year, rest) else throw .outOfRange

def readMark (mark : Char) : Reader Unit := fun text =>
  match skipBlanks text with
  | [] => .error .tooShort
  | char :: rest => if char = mark then .ok ((), rest) else .error .invalid

def readDate : Reader Date := fun text => do
  let (year, text) ← readYear text
  let ((), text) ← readMark '-' text
  let (month, text) ← readWithin 1 12 text
  let ((), text) ← readMark '-' text
  let (day, text) ← readWithin 1 31 text
  return (⟨year, month, day⟩, text)

def readSeparator : Reader Unit
  | [] => .error .tooShort
  | char :: rest => if char = 'T' ∨ char = 't' ∨ char = ' ' then .ok ((), rest) else .error .invalid

/-- Nanoseconds behind a decimal point, zero without one. Digits after the ninth do not count. -/
def readFraction : Reader Nat
  | '.' :: rest => do
    let (number, after) ← readNumber 9 rest
    let places := rest.length - after.length
    return (number * Decimal.tenTo (9 - places), after.dropWhile isDigit)
  | text => .ok (0, text)

/-- A time of day. Second 60 is a leap second. -/
structure Clock where
  hour : Nat
  minute : Nat
  second : Nat
  nanos : Nat
  deriving DecidableEq, Repr

def readClock : Reader Clock := fun text => do
  let (hour, text) ← readWithin 0 23 text
  let ((), text) ← readMark ':' text
  let (minute, text) ← readWithin 0 59 text
  let ((), text) ← readMark ':' text
  let (second, text) ← readWithin 0 60 text
  let (nanos, text) ← readFraction text
  return (⟨hour, minute, second, nanos⟩, text)

/-- Two digits. A lone ASCII character is too short; any other character in their place is wrong. -/
def readPair : Reader (Nat × Nat)
  | [] => .error .tooShort
  | [only] => if only.toNat < 128 then .error .tooShort else .error .invalid
  | first :: second :: rest =>
    if isDigit first ∧ isDigit second then .ok ((digitValue first, digitValue second), rest)
    else .error .invalid

/-- Hours and minutes of an offset after its sign, in minutes. -/
def readOffsetSize : Reader Nat := fun text => do
  let ((tens, ones), text) ← readPair text
  let text := text.dropWhile fun char => char == ':' || Text.isBlank char
  let ((high, low), text) ← readPair text
  if 6 ≤ high then throw .outOfRange
  return ((tens * 10 + ones) * 60 + high * 10 + low, text)

def readOffset : Reader Int
  | 'Z' :: rest | 'z' :: rest => .ok (0, rest)
  | '+' :: rest => do
    let (size, rest) ← readOffsetSize rest
    return ((size : Int), rest)
  | '-' :: rest | '−' :: rest => do
    let (size, rest) ← readOffsetSize rest
    return (-(size : Int), rest)
  | [] => .error .tooShort
  | _ :: _ => .error .invalid

/-- An offset, or the letters `UTC` in either case. -/
def readZone : Reader Int
  | u :: t :: c :: rest =>
    if u.toUpper = 'U' ∧ t.toUpper = 'T' ∧ c.toUpper = 'C' then .ok (0, rest)
    else readOffset (u :: t :: c :: rest)
  | text => readOffset text

/-- The instant at which clocks with an offset show a date and time. -/
def resolve (date : Date) (clock : Clock) (offset : Int) : Except ReadError Instant :=
  if ¬ (leastYear ≤ date.year ∧ date.year ≤ greatestYear ∧ date.valid) then .error .outOfRange
  else if 1440 ≤ offset.natAbs then .error .outOfRange
  else
    let leap := clock.second = 60
    let second := if leap then 59 else clock.second
    let nanos := if leap then clock.nanos + billion else clock.nanos
    let seconds := date.dayNumber * secondsPerDay + (clock.hour * 3600 + clock.minute * 60 + second : Nat)
    match Instant.ofParts? (seconds - offset * 60) nanos with
    | some instant => .ok instant
    | none => .error .impossible

def readInstant (text : List Char) : Except ReadError Instant := do
  let (date, text) ← readDate text
  let ((), text) ← readSeparator text
  let (clock, text) ← readClock text
  let (offset, text) ← readZone (skipBlanks text)
  if ¬ (skipBlanks text).isEmpty then throw .tooLong
  resolve date clock offset

def Instant.ofText (text : String) : Except ReadError Instant := readInstant text.toList

end Discovery.Time
