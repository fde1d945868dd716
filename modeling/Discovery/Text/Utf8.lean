/-!
# UTF-8

Bytes as text. The bytes are cut into units from the left: a unit is a well-formed character or, where none
starts, the longest start of one, and at least one byte. Strict decoding takes well-formed characters only;
lossy decoding writes the replacement character for every unit that is none.
-/
namespace Discovery.Text.Utf8

/-- What the first byte of a character fixes: how many bytes follow, the range of the next one, and the bits of
its value that the first byte carries. -/
structure Lead where
  owed : Nat
  low : UInt8
  high : UInt8
  value : Nat

def lead? (byte : UInt8) : Option Lead :=
  if byte < 0x80 then some ⟨0, 0x80, 0xbf, byte.toNat⟩
  else if byte < 0xc2 then none
  else if byte < 0xe0 then some ⟨1, 0x80, 0xbf, byte.toNat - 0xc0⟩
  else if byte = 0xe0 then some ⟨2, 0xa0, 0xbf, 0⟩
  else if byte = 0xed then some ⟨2, 0x80, 0x9f, 0xd⟩
  else if byte < 0xf0 then some ⟨2, 0x80, 0xbf, byte.toNat - 0xe0⟩
  else if byte = 0xf0 then some ⟨3, 0x90, 0xbf, 0⟩
  else if byte < 0xf4 then some ⟨3, 0x80, 0xbf, byte.toNat - 0xf0⟩
  else if byte = 0xf4 then some ⟨3, 0x80, 0x8f, 4⟩
  else none

/-- Take the bytes that a character still owes. Where one is missing there is no character, and what follows
starts a unit of its own. -/
def follow : (owed : Nat) → (low high : UInt8) → (value : Nat) → List UInt8 → Option Char × List UInt8
  | 0, _, _, value, rest => (some (Char.ofNat value), rest)
  | _ + 1, _, _, _, [] => (none, [])
  | owed + 1, low, high, value, byte :: rest =>
    if low ≤ byte ∧ byte ≤ high then follow owed 0x80 0xbf (value * 64 + byte.toNat % 64) rest
    else (none, byte :: rest)

theorem length_follow (owed : Nat) (low high : UInt8) (value : Nat) (bytes : List UInt8) :
    (follow owed low high value bytes).2.length ≤ bytes.length := by
  fun_induction follow owed low high value bytes with
  | case1 => simp
  | case2 => simp
  | case3 _ _ _ _ _ _ _ shorter => exact Nat.le_succ_of_le shorter
  | case4 => simp

/-- The unit that starts with a byte, and what follows it. -/
def unit (byte : UInt8) (rest : List UInt8) : Option Char × List UInt8 :=
  match lead? byte with
  | some lead => follow lead.owed lead.low lead.high lead.value rest
  | none => (none, rest)

theorem length_unit (byte : UInt8) (rest : List UInt8) : (unit byte rest).2.length ≤ rest.length := by
  unfold unit
  split
  · exact length_follow ..
  · simp

def units : List UInt8 → List (Option Char)
  | [] => []
  | byte :: rest => (unit byte rest).1 :: units (unit byte rest).2
  termination_by bytes => bytes.length
  decreasing_by exact Nat.lt_succ_of_le (length_unit byte rest)

/-- The text that well-formed bytes encode. -/
def decode? (bytes : List UInt8) : Option (List Char) := (units bytes).mapM id

/-- Bytes as text, with the replacement character for what is not well-formed. -/
def decodeLossy (bytes : List UInt8) : List Char := (units bytes).map (·.getD '\uFFFD')

end Discovery.Text.Utf8
