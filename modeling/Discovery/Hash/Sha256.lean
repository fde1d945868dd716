import Discovery.Decimal.Digits
/-!
# SHA-256

The digest of a byte string as FIPS 180-4 defines it: the string is padded to whole blocks of 64 bytes, every
block is expanded to a schedule of 64 words, and 64 rounds mix each schedule into the eight words of state.
-/
namespace Discovery.Hash.Sha256

/-- Fractions of the cube roots of the first 64 primes. -/
def roundConstants : Array UInt32 := #[
  0x428a2f98, 0x71374491, 0xb5c0fbcf, 0xe9b5dba5, 0x3956c25b, 0x59f111f1, 0x923f82a4, 0xab1c5ed5,
  0xd807aa98, 0x12835b01, 0x243185be, 0x550c7dc3, 0x72be5d74, 0x80deb1fe, 0x9bdc06a7, 0xc19bf174,
  0xe49b69c1, 0xefbe4786, 0x0fc19dc6, 0x240ca1cc, 0x2de92c6f, 0x4a7484aa, 0x5cb0a9dc, 0x76f988da,
  0x983e5152, 0xa831c66d, 0xb00327c8, 0xbf597fc7, 0xc6e00bf3, 0xd5a79147, 0x06ca6351, 0x14292967,
  0x27b70a85, 0x2e1b2138, 0x4d2c6dfc, 0x53380d13, 0x650a7354, 0x766a0abb, 0x81c2c92e, 0x92722c85,
  0xa2bfe8a1, 0xa81a664b, 0xc24b8b70, 0xc76c51a3, 0xd192e819, 0xd6990624, 0xf40e3585, 0x106aa070,
  0x19a4c116, 0x1e376c08, 0x2748774c, 0x34b0bcb5, 0x391c0cb3, 0x4ed8aa4a, 0x5b9cca4f, 0x682e6ff3,
  0x748f82ee, 0x78a5636f, 0x84c87814, 0x8cc70208, 0x90befffa, 0xa4506ceb, 0xbef9a3f7, 0xc67178f2]

structure State where
  a : UInt32
  b : UInt32
  c : UInt32
  d : UInt32
  e : UInt32
  f : UInt32
  g : UInt32
  h : UInt32
  deriving DecidableEq

/-- Fractions of the square roots of the first eight primes. -/
def initial : State :=
  ⟨0x6a09e667, 0xbb67ae85, 0x3c6ef372, 0xa54ff53a,
    0x510e527f, 0x9b05688c, 0x1f83d9ab, 0x5be0cd19⟩

def rotateRight (word : UInt32) (places : UInt32) : UInt32 :=
  word >>> places ||| word <<< (32 - places)

/-- The last `count` bytes of a number, most significant first. -/
def bigEndian : Nat → Nat → List UInt8
  | 0, _ => []
  | count + 1, number => bigEndian count (number / 256) ++ [UInt8.ofNat number]

/-- The padding behind a message of a given length: a one bit, zeros, and the length in bits. -/
def padding (length : Nat) : List UInt8 :=
  0x80 :: List.replicate ((119 - length % 64) % 64) 0 ++ bigEndian 8 (8 * length)

/-- Big-endian words of a byte string. -/
def words : List UInt8 → List UInt32
  | a :: b :: c :: d :: rest =>
    (a.toUInt32 <<< 24 ||| b.toUInt32 <<< 16 ||| c.toUInt32 <<< 8 ||| d.toUInt32) :: words rest
  | _ => []

/-- The next word of a schedule. -/
def expand (schedule : Array UInt32) : UInt32 :=
  let back (places : Nat) : UInt32 := schedule.getD (schedule.size - places) 0
  let low := back 15
  let high := back 2
  let sigma0 := rotateRight low 7 ^^^ rotateRight low 18 ^^^ low >>> 3
  let sigma1 := rotateRight high 17 ^^^ rotateRight high 19 ^^^ high >>> 10
  sigma1 + back 7 + sigma0 + back 16

/-- The 64 words that a block's sixteen are expanded to. -/
def schedule (block : List UInt32) : Array UInt32 :=
  (List.range 48).foldl (fun words _ => words.push (expand words)) block.toArray

def round (state : State) (constant word : UInt32) : State :=
  let sum1 := rotateRight state.e 6 ^^^ rotateRight state.e 11 ^^^ rotateRight state.e 25
  let choice := (state.e &&& state.f) ^^^ (~~~ state.e &&& state.g)
  let first := state.h + sum1 + choice + constant + word
  let sum0 := rotateRight state.a 2 ^^^ rotateRight state.a 13 ^^^ rotateRight state.a 22
  let majority := (state.a &&& state.b) ^^^ (state.a &&& state.c) ^^^ (state.b &&& state.c)
  ⟨first + (sum0 + majority), state.a, state.b, state.c, state.d + first, state.e, state.f, state.g⟩

def State.add (left right : State) : State :=
  ⟨left.a + right.a, left.b + right.b, left.c + right.c, left.d + right.d,
    left.e + right.e, left.f + right.f, left.g + right.g, left.h + right.h⟩

/-- Mix one block into the state. -/
def compress (state : State) (block : List UInt32) : State :=
  let words := schedule block
  let mixed := (List.range 64).foldl
    (fun state index => round state (roundConstants.getD index 0) (words.getD index 0)) state
  state.add mixed

/-- Mix whole blocks into the state; the fuel is the number of blocks. -/
def absorb : Nat → State → List UInt32 → State
  | 0, state, _ => state
  | blocks + 1, state, words => absorb blocks (compress state (words.take 16)) (words.drop 16)

def digest (message : List UInt8) : State :=
  let padded := words (message ++ padding message.length)
  absorb (padded.length / 16) initial padded

def State.words (state : State) : List UInt32 :=
  [state.a, state.b, state.c, state.d, state.e, state.f, state.g, state.h]

/-- The digest as 64 lower-case hexadecimal digits. -/
def hexDigest (message : List UInt8) : String :=
  String.ofList ((digest message).words.flatMap fun word => Decimal.hexPadded 8 word.toNat)

end Discovery.Hash.Sha256
