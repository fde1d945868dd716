import Discovery.Json.Reader
import Discovery.Json.Writer
import Discovery.Proofs.Decimal.Runs
/-!
# Strings in JSON text

A written string reads back as itself, whatever characters it holds: what stands for a character is no quote, and
the reader takes it back to the character and no further. So a string that is written in front of other text ends
where its closing quote stands, and no choice of characters moves that end.
-/
namespace Discovery.Json

open Decimal (hexChar hexPadded hexValue?_hexChar)

/-- The reader takes the four digits of an escape, and what they leave out is above 16 bits. -/
theorem readUnit_hexPadded (number : Nat) (rest : List Char) :
    readUnit (hexPadded 4 number ++ rest) = some (number % 65536, rest) := by
  have digits : hexPadded 4 number ++ rest = hexChar (number / 16 / 16 / 16) :: hexChar (number / 16 / 16) ::
      hexChar (number / 16) :: hexChar number :: rest := by
    simp [hexPadded, hexChar]
  have whole : (((number / 16 / 16 / 16 % 16) * 16 + number / 16 / 16 % 16) * 16 + number / 16 % 16) * 16 + number % 16 =
      number % 65536 := by omega
  simp only [digits, readUnit, hexValue?_hexChar, Option.bind_eq_bind, Option.bind_some, whole]
  rfl

/-- The only characters that are escaped by number are control characters. -/
theorem readUnicode_hexPadded {char : Char} (control : char.toNat < 32) (rest : List Char) :
    readUnicode (hexPadded 4 char.toNat ++ rest) = some (char, rest) := by
  have small : char.toNat % 65536 = char.toNat := by omega
  have low : ¬ (0xD800 ≤ char.toNat ∧ char.toNat < 0xDC00) := by omega
  have high : ¬ (0xDC00 ≤ char.toNat ∧ char.toNat < 0xE000) := by omega
  simp only [readUnicode, readUnit_hexPadded, small, Option.bind_eq_bind, Option.bind_some, if_neg low, if_neg high,
    Char.ofNat_toNat]
  rfl

/-- A character stands for itself, unless it ends a string, starts an escape or is a control character. Then a backslash
stands for it with what the reader takes for that character behind a backslash. -/
theorem escape_cases (char : Char) :
    (escape char = [char] ∧ char ≠ '"' ∧ char ≠ '\\' ∧ ¬ char.toNat < 32) ∨
      ∃ code, escape char = '\\' :: code ∧ ∀ rest, readEscape (code ++ rest) = some (char, rest) := by
  -- The tests stand in the order in which `escape` makes them, so the last case knows that none has held.
  unfold escape
  split
  next quote => exact .inr ⟨['"'], rfl, fun _ => by rw [quote]; rfl⟩
  next quote =>
  split
  next backslash => exact .inr ⟨['\\'], rfl, fun _ => by rw [backslash]; rfl⟩
  next backslash =>
  split
  next newline => exact .inr ⟨['n'], rfl, fun _ => newline ▸ rfl⟩
  split
  next carriage => exact .inr ⟨['r'], rfl, fun _ => carriage ▸ rfl⟩
  split
  next tab => exact .inr ⟨['t'], rfl, fun _ => tab ▸ rfl⟩
  split
  next backspace => exact .inr ⟨['b'], rfl, fun _ => backspace ▸ rfl⟩
  split
  next feed => exact .inr ⟨['f'], rfl, fun _ => feed ▸ rfl⟩
  split
  next control => exact .inr ⟨'u' :: hexPadded 4 char.toNat, rfl, readUnicode_hexPadded control⟩
  next visible => exact .inl ⟨rfl, quote, backslash, visible⟩

/-- Whatever stands for a character is read as that character. -/
theorem readChars_escape (char : Char) (fuel : Nat) (rest : List Char) :
    readChars (fuel + 1) (escape char ++ rest) =
      (readChars fuel rest).map fun read => (char :: read.1, read.2) := by
  rcases escape_cases char with ⟨plain, quote, backslash, visible⟩ | ⟨code, escaped, read⟩
  · rw [plain, List.singleton_append, readChars, if_neg quote, if_neg backslash, if_neg visible]
    cases readChars fuel rest <;> rfl
  · rw [escaped, List.cons_append, readChars, if_neg (by decide), if_pos rfl, read]
    simp only [Option.bind_eq_bind, Option.bind_some]
    cases readChars fuel rest <;> rfl

/-- A string reads back up to its closing quote, whatever follows. -/
theorem readChars_written (text : List Char) {fuel : Nat} (enough : text.length < fuel) (rest : List Char) :
    readChars fuel (text.flatMap escape ++ '"' :: rest) = some (text, rest) := by
  -- By induction on the string. Every character of it takes one unit of fuel, however long its escape is.
  induction text generalizing fuel with
  | nil =>
    obtain ⟨spent, rfl⟩ := Nat.exists_eq_add_of_lt enough
    simp [readChars]
  | cons char text ih =>
    obtain ⟨spent, rfl⟩ : ∃ spent, fuel = spent + 1 := Nat.exists_eq_succ_of_ne_zero (by omega)
    rw [List.flatMap_cons, List.append_assoc, readChars_escape, ih (by simpa using enough)]
    rfl

theorem length_le_of_escaped (text : List Char) : text.length ≤ (text.flatMap escape).length := by
  induction text with
  | nil => exact Nat.le_refl 0
  | cons char text ih =>
    have visible : 0 < (escape char).length := by
      rcases escape_cases char with ⟨plain, _⟩ | ⟨code, escaped, _⟩
      · simp [plain]
      · simp [escaped]
    simp only [List.flatMap_cons, List.length_append, List.length_cons]
    omega

theorem readQuoted_written (text : List Char) (rest : List Char) :
    readQuoted (text.flatMap escape ++ '"' :: rest) = some (String.ofList text, rest) := by
  have enough : text.length < (text.flatMap escape ++ '"' :: rest).length + 1 := by
    have := length_le_of_escaped text
    simp only [List.length_append]
    omega
  simp only [readQuoted, readChars_written text enough, Option.bind_eq_bind, Option.bind_some]
  rfl

/-- Where two texts start with a string each and agree, so do the strings and what follows them. -/
theorem quoted_append_inj {left right leftRest rightRest : List Char}
    (same : quoted left ++ leftRest = quoted right ++ rightRest) : left = right ∧ leftRest = rightRest := by
  have inner : left.flatMap escape ++ '"' :: leftRest = right.flatMap escape ++ '"' :: rightRest := by
    simpa [quoted] using same
  have read := congrArg readQuoted inner
  simp only [readQuoted_written, Option.some.injEq, Prod.mk.injEq, String.ofList_inj] at read
  exact read

end Discovery.Json
