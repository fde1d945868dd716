/-!
# Decimal digits

Natural numbers as digit characters. A number is written with no leading zero, or padded to a width
when a format fixes its width. Reading a digit run takes the characters from the left, so a written
number reads back as itself.
-/
namespace Discovery.Decimal

def digitChar (digit : Nat) : Char := Char.ofNat (48 + digit % 10)

def isDigit (char : Char) : Bool := '0' ≤ char && char ≤ '9'

/-- The value of a digit character, zero for any other character. -/
def digitValue (char : Char) : Nat := if isDigit char then char.toNat - 48 else 0

theorem isDigit_digitChar (digit : Nat) : isDigit (digitChar digit) = true := by
  have small : digit % 10 < 10 := Nat.mod_lt _ (by decide)
  simp only [digitChar]
  generalize digit % 10 = rest at small
  match rest, small with
  | 0, _ | 1, _ | 2, _ | 3, _ | 4, _ | 5, _ | 6, _ | 7, _ | 8, _ | 9, _ => decide

theorem digitValue_digitChar (digit : Nat) : digitValue (digitChar digit) = digit % 10 := by
  have small : digit % 10 < 10 := Nat.mod_lt _ (by decide)
  simp only [digitChar]
  generalize digit % 10 = rest at small
  match rest, small with
  | 0, _ | 1, _ | 2, _ | 3, _ | 4, _ | 5, _ | 6, _ | 7, _ | 8, _ | 9, _ => decide

def tenTo (exponent : Nat) : Nat := Nat.pow 10 exponent

def twoTo (exponent : Nat) : Nat := Nat.pow 2 exponent

theorem tenTo_succ (exponent : Nat) : tenTo (exponent + 1) = 10 * tenTo exponent := by
  simp only [tenTo, Nat.pow_eq, Nat.pow_succ]
  omega

/-- A number without leading zeros. -/
def digits (number : Nat) : List Char :=
  if number < 10 then [digitChar number]
  else digits (number / 10) ++ [digitChar (number % 10)]
termination_by number

/-- An integer with a minus sign if it is negative. -/
def signed (number : Int) : List Char :=
  (if number < 0 then ['-'] else []) ++ digits number.natAbs

/-- The last `width` digits, with leading zeros. -/
def padded : Nat → Nat → List Char
  | 0, _ => []
  | width + 1, number => padded width (number / 10) ++ [digitChar (number % 10)]

theorem length_padded (width number : Nat) : (padded width number).length = width := by
  induction width generalizing number with
  | zero => rfl
  | succ width ih => simp [padded, ih]

def value (run : List Char) : Nat := run.foldl (fun total char => 10 * total + digitValue char) 0

theorem value_append_singleton (run : List Char) (char : Char) :
    value (run ++ [char]) = 10 * value run + digitValue char := by
  simp [value]

theorem value_digits (number : Nat) : value (digits number) = number := by
  induction number using Nat.strongRecOn with
  | ind number ih =>
    unfold digits
    split
    next small => simp [value, digitValue_digitChar, Nat.mod_eq_of_lt small]
    next large =>
      rw [value_append_singleton, ih _ (by omega), digitValue_digitChar]
      omega

theorem value_padded (width number : Nat) : value (padded width number) = number % tenTo width := by
  induction width generalizing number with
  | zero => simp [padded, value, tenTo, Nat.mod_one]
  | succ width ih =>
    rw [padded, value_append_singleton, ih, digitValue_digitChar, tenTo_succ, Nat.mod_mul]
    omega

def takeDigits (text : List Char) : List Char × List Char := text.span isDigit

/-- Left-pad with zeros to at least `width` characters. -/
def digitsAtLeast (width number : Nat) : List Char :=
  let run := digits number
  List.replicate (width - run.length) '0' ++ run

def hexChar (digit : Nat) : Char :=
  if digit % 16 < 10 then Char.ofNat (48 + digit % 16) else Char.ofNat (87 + digit % 16)

/-- The last `width` hexadecimal digits, with leading zeros. -/
def hexPadded : Nat → Nat → List Char
  | 0, _ => []
  | width + 1, number => hexPadded width (number / 16) ++ [hexChar (number % 16)]

/-- A number in hexadecimal without leading zeros. -/
def hexDigits (number : Nat) : List Char :=
  if number < 16 then [hexChar number]
  else hexDigits (number / 16) ++ [hexChar (number % 16)]
termination_by number

/-- The value of a hexadecimal digit in either case. -/
def hexValue? (char : Char) : Option Nat :=
  if isDigit char then some (char.toNat - 48)
  else if 'a' ≤ char && char ≤ 'f' then some (char.toNat - 87)
  else if 'A' ≤ char && char ≤ 'F' then some (char.toNat - 55)
  else none

end Discovery.Decimal
