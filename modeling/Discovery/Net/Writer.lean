import Discovery.Decimal.Digits
import Discovery.Net.Address
/-!
# Written addresses

Version 4 addresses are dotted decimals. Version 6 addresses are lower-case hexadecimal groups without
leading zeros, in which the first of the longest runs of at least two zero groups is written `::`. A mapped
address shows its version 4 part as dotted decimals.
-/
namespace Discovery.Net

def writeOctets (octets : List UInt8) : List Char :=
  List.intercalate ['.'] (octets.map fun octet => Decimal.digits octet.toNat)

def writeGroups (groups : List UInt16) : List Char :=
  List.intercalate [':'] (groups.map fun group => Decimal.hexDigits group.toNat)

/-- Start and length of the first longest run of zero groups. `index` groups have been passed, `current` is
the run that ends there and `best` the best so far, each with its start. -/
def longestZeros : List UInt16 → Nat → Nat × Nat → Nat × Nat → Nat × Nat
  | [], _, _, best => best
  | group :: rest, index, current, best =>
    if group = 0 then
      let current := (if current.2 = 0 then index else current.1, current.2 + 1)
      longestZeros rest (index + 1) current (if best.2 < current.2 then current else best)
    else longestZeros rest (index + 1) (0, 0) best

def Address.write : Address → List Char
  | v4 octets => writeOctets octets.toList
  | v6 groups =>
    match mapped? groups with
    | some octets => "::ffff:".toList ++ writeOctets octets.toList
    | none =>
      let (start, length) := longestZeros groups.toList 0 (0, 0) (0, 0)
      if 1 < length then
        writeGroups (groups.toList.take start) ++ [':', ':'] ++ writeGroups (groups.toList.drop (start + length))
      else writeGroups groups.toList

def Address.toText (address : Address) : String := String.ofList address.write

end Discovery.Net
