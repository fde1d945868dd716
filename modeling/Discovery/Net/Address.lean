/-!
# IP addresses

Addresses of both versions by their groups: four octets or eight 16-bit groups. Addresses are ordered with
version 4 first and by their numeric value within a version. A version 6 address under `::ffff:0:0/96` maps a
version 4 address; the canonical form of an address is the mapped one if there is one.
-/
namespace Discovery.Net

inductive Address where
  | v4 (octets : Vector UInt8 4)
  | v6 (groups : Vector UInt16 8)
  deriving DecidableEq, Repr

namespace Address

/-- The number written by a sequence of digits to a base. -/
def ofDigits (base : Nat) (run : List Nat) : Nat := run.foldl (fun total digit => total * base + digit) 0

/-- The version bit and the numeric value. -/
def rank : Address → Nat × Nat
  | v4 octets => (0, ofDigits 256 (octets.toList.map UInt8.toNat))
  | v6 groups => (1, ofDigits 65536 (groups.toList.map UInt16.toNat))

/-- Order by version, then by value. -/
def le (left right : Address) : Bool :=
  left.rank.1 < right.rank.1 || (left.rank.1 == right.rank.1 && left.rank.2 ≤ right.rank.2)

def isV4 : Address → Bool
  | v4 _ => true
  | v6 _ => false

/-- The address of the host itself: `127.0.0.0/8` and `::1`. -/
def isLoopback : Address → Bool
  | v4 octets => octets.head == 127
  | v6 groups => groups.toList == [0, 0, 0, 0, 0, 0, 0, 1]

def highByte (group : UInt16) : UInt8 := (group >>> 8).toUInt8

def lowByte (group : UInt16) : UInt8 := group.toUInt8

def ofBytes (high low : UInt8) : UInt16 := high.toUInt16 <<< 8 ||| low.toUInt16

/-- The version 4 address that a version 6 address maps. -/
def mapped? (groups : Vector UInt16 8) : Option (Vector UInt8 4) :=
  if groups.toList.take 6 = [0, 0, 0, 0, 0, 0xffff] then
    some #v[highByte groups[6], lowByte groups[6], highByte groups[7], lowByte groups[7]]
  else none

/-- The form in which equal hosts have equal addresses. -/
def canonical : Address → Address
  | v4 octets => v4 octets
  | v6 groups => match mapped? groups with
    | some octets => v4 octets
    | none => v6 groups

/-- The least address of a list. -/
def least? : List Address → Option Address
  | [] => none
  | address :: rest =>
    match least? rest with
    | some other => some (if address.le other then address else other)
    | none => some address

end Address

end Discovery.Net
