import Discovery.Decimal.Digits
import Discovery.Time.Calendar
/-!
# Dates and times in TOML

A date, a time of day, or both, then perhaps with an offset from UTC. Seconds run to 60 and fractions keep nine
digits. Written out, a date and a time stand on either side of a `T`, and a fraction has no trailing zeros.
-/
namespace Discovery.Toml

open Decimal (isDigit padded)
open Time (Date)

structure TimeOfDay where
  hour : Nat
  minute : Nat
  second : Nat
  nanos : Nat
  deriving DecidableEq, Repr

inductive Offset where
  | utc
  | minutes (east : Int)
  deriving DecidableEq, Repr

inductive DateTime where
  | date (date : Date)
  | time (time : TimeOfDay)
  | local (date : Date) (time : TimeOfDay)
  | offset (date : Date) (time : TimeOfDay) (offset : Offset)
  deriving DecidableEq, Repr

/-! ## Writing -/

def writeDate (date : Date) : List Char :=
  padded 4 date.year.toNat ++ '-' :: padded 2 date.month ++ '-' :: padded 2 date.day

def dropTrailingZeros (run : List Char) : List Char := (run.reverse.dropWhile (· == '0')).reverse

def writeTime (time : TimeOfDay) : List Char :=
  padded 2 time.hour ++ ':' :: padded 2 time.minute ++ ':' :: padded 2 time.second ++
    (if time.nanos = 0 then [] else '.' :: dropTrailingZeros (padded 9 time.nanos))

def Offset.write : Offset → List Char
  | utc => ['Z']
  | minutes east =>
    let size := east.natAbs
    (if east < 0 then '-' else '+') :: padded 2 (size / 60) ++ ':' :: padded 2 (size % 60)

def DateTime.write : DateTime → List Char
  | date day => writeDate day
  | time clock => writeTime clock
  | .local day clock => writeDate day ++ 'T' :: writeTime clock
  | offset day clock shift => writeDate day ++ 'T' :: writeTime clock ++ shift.write

/-! ## Reading -/

/-- Exactly `count` digits. -/
def readDigits (count : Nat) (text : List Char) : Option (Nat × List Char) :=
  let run := text.take count
  if run.length = count ∧ run.all isDigit then some (Decimal.value run, text.drop count) else none

/-- Two digits that are at most `greatest`. -/
def readTwo (greatest : Nat) (text : List Char) : Option (Nat × List Char) := do
  let (number, rest) ← readDigits 2 text
  if number ≤ greatest then return (number, rest) else none

def readMark (mark : Char) : List Char → Option (List Char)
  | char :: rest => if char = mark then some rest else none
  | [] => none

def readDate (text : List Char) : Option (Date × List Char) := do
  let (year, rest) ← readDigits 4 text
  let rest ← readMark '-' rest
  let (month, rest) ← readDigits 2 rest
  let rest ← readMark '-' rest
  let (day, rest) ← readDigits 2 rest
  let date : Date := ⟨year, month, day⟩
  if date.valid then return (date, rest) else none

/-- The nanoseconds that the digits behind a decimal point stand for. Digits after the ninth are dropped. -/
def readFraction (text : List Char) : Nat × List Char :=
  match text with
  | '.' :: rest =>
    match Decimal.takeDigits rest with
    | ([], _) => (0, text)
    | (run, rest) =>
      let kept := run.take 9
      (Decimal.value kept * Decimal.tenTo (9 - kept.length), rest)
  | _ => (0, text)

def readTime (text : List Char) : Option (TimeOfDay × List Char) := do
  let (hour, rest) ← readTwo 23 text
  let rest ← readMark ':' rest
  let (minute, rest) ← readTwo 59 rest
  let rest ← readMark ':' rest
  let (second, rest) ← readTwo 60 rest
  let (nanos, rest) := readFraction rest
  return (⟨hour, minute, second, nanos⟩, rest)

/-- The offset behind a time, if there is one. -/
def readOffset (text : List Char) : Option (Option Offset × List Char) :=
  match text with
  | char :: rest =>
    if char = 'Z' ∨ char = 'z' then some (some .utc, rest)
    else if char = '+' ∨ char = '-' then do
      let (hour, rest) ← readTwo 23 rest
      let rest ← readMark ':' rest
      let (minute, rest) ← readTwo 59 rest
      let size : Int := hour * 60 + minute
      return (some (.minutes (if char = '-' then -size else size)), rest)
    else some (none, text)
  | [] => some (none, [])

/-- A time starts here: two digits and a colon. -/
def startsTime : List Char → Bool
  | first :: second :: ':' :: _ => isDigit first && isDigit second
  | _ => false

/-- A date starts here: four digits and a hyphen. -/
def startsDate (text : List Char) : Bool :=
  (text.take 4).length == 4 && (text.take 4).all isDigit && (text.drop 4).head? == some '-'

/-- A date and what is joined to it by a letter or a blank. A blank that no time follows is not part of it. -/
def readFromDate (text : List Char) : Option (DateTime × List Char) := do
  let (date, rest) ← readDate text
  match rest with
  | mark :: behind =>
    if (mark = 'T' ∨ mark = 't' ∨ mark = ' ') ∧ startsTime behind then
      let (time, rest) ← readTime behind
      let (offset, rest) ← readOffset rest
      match offset with
      | some offset => return (.offset date time offset, rest)
      | none => return (.local date time, rest)
    else return (.date date, rest)
  | [] => return (.date date, [])

/-- A time by itself, or a date and what is joined to it. -/
def readDateTime (text : List Char) : Option (DateTime × List Char) :=
  if startsTime text then (readTime text).map fun (clock, rest) => (.time clock, rest) else readFromDate text

/-- The date or time that makes up the whole text. -/
def DateTime.ofChars? (text : List Char) : Option DateTime :=
  match readDateTime text with
  | some (value, []) => some value
  | _ => none

end Discovery.Toml
