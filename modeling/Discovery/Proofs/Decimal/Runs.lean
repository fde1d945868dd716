import Discovery.Decimal.Digits
import Mathlib.Algebra.Group.Nat.Defs
import Mathlib.Data.List.Basic
import Mathlib.Data.List.TakeDrop
import Mathlib.Data.Nat.Init
/-!
# Written numbers as runs of digits

A number in decimal or hexadecimal is a run of digit characters, not empty, no longer than its size demands, and
without a leading zero. A reader that takes characters as long as they are digits therefore takes exactly the
written number, provided that no further digit follows it.
-/
namespace Discovery

/-- A run of characters of one kind is split off where the kind ends. -/
theorem span_append_of_stop {kind : Char → Bool} {run rest : List Char} (all : ∀ char ∈ run, kind char = true)
    (stop : ∀ char ∈ rest.head?, kind char = false) : (run ++ rest).span kind = (run, rest) := by
  rw [List.span_eq_takeWhile_dropWhile, List.takeWhile_append_of_pos all, List.dropWhile_append_of_pos all]
  cases rest with
  | nil => simp
  | cons char rest =>
    have other : kind char = false := stop char rfl
    simp [other]

namespace Decimal

/-! ## Positional notation -/

/-- Numbers are written to a base, the last digit behind all others. -/
def Positional (base : Nat) (glyph : Nat → Char) (write : Nat → List Char) : Prop :=
  ∀ number, write number =
    if number < base then [glyph number] else write (number / base) ++ [glyph (number % base)]

namespace Positional

variable {base : Nat} {glyph : Nat → Char} {write : Nat → List Char}

theorem ne_nil (positional : Positional base glyph write) (number : Nat) : write number ≠ [] := by
  rw [positional number]
  split <;> simp

/-- Induction on a number by dropping its last digit. -/
theorem induction (large : 1 < base) {motive : Nat → Prop} (last : ∀ number < base, motive number)
    (more : ∀ number, base ≤ number → motive (number / base) → motive number) (number : Nat) : motive number := by
  induction number using Nat.strongRecOn with
  | ind number ih =>
    rcases Nat.lt_or_ge number base with small | big
    · exact last number small
    · exact more number big (ih _ (Nat.div_lt_self (by omega) large))

theorem forall_mem (positional : Positional base glyph write) (large : 1 < base) {kind : Char → Bool}
    (glyphs : ∀ digit, kind (glyph digit) = true) (number : Nat) : ∀ char ∈ write number, kind char = true := by
  induction number using induction large with
  | last number small =>
    intro char member
    rw [positional number, if_pos small, List.mem_singleton] at member
    exact member ▸ glyphs number
  | more number big ih =>
    intro char member
    rw [positional number, if_neg (by omega), List.mem_append, List.mem_singleton] at member
    rcases member with front | rfl
    · exact ih char front
    · exact glyphs _

theorem length_le (positional : Positional base glyph write) {width number : Nat} (positive : 0 < width)
    (small : number < base ^ width) : (write number).length ≤ width := by
  induction width, positive using Nat.le_induction generalizing number with
  | base =>
    rw [positional number, if_pos (by simpa using small)]
    simp
  | succ width _ ih =>
    rw [positional number]
    split
    next => simp
    next =>
      -- In front of the last digit stands a number below the next lower power.
      have front := ih (Nat.div_lt_of_lt_mul (by rwa [Nat.pow_succ'] at small))
      simp only [List.length_append, List.length_singleton]
      omega

end Positional

/-! ## Decimal digits -/

theorem positional_digits : Positional 10 digitChar digits := fun number => by rw [digits]

/-- The digits are the characters with the codes from 48 to 57. -/
theorem isDigit_iff {char : Char} : isDigit char = true ↔ 48 ≤ char.toNat ∧ char.toNat ≤ 57 := by
  simp only [isDigit, Bool.and_eq_true, decide_eq_true_eq, Char.le_def, UInt32.le_iff_toNat_le]
  rfl

theorem isDigit_of_mem_digits (number : Nat) : ∀ char ∈ digits number, isDigit char = true :=
  positional_digits.forall_mem (by decide) isDigit_digitChar number

/-- A run of digits starts with a digit. -/
theorem isDigit_of_run {run rest more : List Char} {char : Char} (some : run ≠ []) (all : ∀ char ∈ run, isDigit char = true)
    (same : run ++ rest = char :: more) : isDigit char = true := by
  obtain ⟨first, further, rfl⟩ := List.exists_cons_of_ne_nil some
  rw [List.cons_append, List.cons.injEq] at same
  exact same.1 ▸ all first List.mem_cons_self

theorem eq_zero_of_head?_digits {number : Nat} (zero : (digits number).head? = some '0') : number = 0 := by
  induction number using Positional.induction (by decide : 1 < 10) with
  | last number small =>
    rw [positional_digits number, if_pos small] at zero
    have same : digitChar number = '0' := by simpa using zero
    have value := digitValue_digitChar number
    rw [same, Nat.mod_eq_of_lt small] at value
    exact value.symm
  | more number big ih =>
    rw [positional_digits number, if_neg (by omega),
      List.head?_append_of_ne_nil _ (positional_digits.ne_nil _)] at zero
    -- The number in front of the last digit is not zero, so it does not start with a zero either.
    have none := ih zero
    omega

/-! ## Hexadecimal digits -/

theorem hexValue?_hexChar (digit : Nat) : hexValue? (hexChar digit) = some (digit % 16) := by
  have every : ∀ rest < 16, hexValue? (hexChar rest) = some rest := by decide
  have same : hexChar digit = hexChar (digit % 16) := by simp [hexChar]
  rw [same, every _ (Nat.mod_lt _ (by decide))]

def isHexDigit (char : Char) : Bool := (hexValue? char).isSome

theorem isHexDigit_of_isDigit {char : Char} (digit : isDigit char = true) : isHexDigit char = true := by
  simp [isHexDigit, hexValue?, digit]

theorem positional_hexDigits : Positional 16 hexChar hexDigits := fun number => by rw [hexDigits]

theorem isHexDigit_of_mem_hexDigits (number : Nat) : ∀ char ∈ hexDigits number, isHexDigit char = true :=
  positional_hexDigits.forall_mem (by decide) (fun digit => by simp [isHexDigit, hexValue?_hexChar]) number

def hexTotal (run : List Char) : Nat := run.foldl (fun total char => total * 16 + (hexValue? char).getD 0) 0

theorem hexTotal_append_singleton (run : List Char) (char : Char) :
    hexTotal (run ++ [char]) = hexTotal run * 16 + (hexValue? char).getD 0 := by
  simp [hexTotal]

theorem hexTotal_hexDigits (number : Nat) : hexTotal (hexDigits number) = number := by
  induction number using Positional.induction (by decide : 1 < 16) with
  | last number small =>
    rw [positional_hexDigits number, if_pos small]
    simp [hexTotal, hexValue?_hexChar, Nat.mod_eq_of_lt small]
  | more number big ih =>
    rw [positional_hexDigits number, if_neg (by omega), hexTotal_append_singleton, ih, hexValue?_hexChar,
      Option.getD_some, Nat.mod_mod]
    omega

end Decimal

end Discovery
