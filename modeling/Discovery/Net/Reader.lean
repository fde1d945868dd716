import Discovery.Decimal.Digits
import Discovery.Net.Address
/-!
# Reading addresses

A version 4 address is four decimal octets of at most three digits without leading zeros. A version 6 address
is eight hexadecimal groups of at most four digits; the last two may be a dotted version 4 address, and one
`::` stands for the groups that are missing, of which there must be at least one.
-/
namespace Discovery.Net

open Decimal (isDigit digitValue hexValue? takeDigits)

/-- A text's next part and the rest. -/
abbrev Reader (α : Type) := List Char → Option (α × List Char)

def readMark (mark : Char) : Reader Unit
  | [] => none
  | char :: rest => if char = mark then some ((), rest) else none

/-- A decimal octet. A digit beyond the third makes the run too long. -/
def readOctet : Reader UInt8 := fun text =>
  let (run, rest) := takeDigits text
  if run.isEmpty ∨ 3 < run.length ∨ (1 < run.length ∧ run.head? = some '0') ∨ 255 < Decimal.value run then
    none
  else some (UInt8.ofNat (Decimal.value run), rest)

def readV4 : Reader (Vector UInt8 4) := fun text => do
  let (a, text) ← readOctet text
  let ((), text) ← readMark '.' text
  let (b, text) ← readOctet text
  let ((), text) ← readMark '.' text
  let (c, text) ← readOctet text
  let ((), text) ← readMark '.' text
  let (d, text) ← readOctet text
  return (#v[a, b, c, d], text)

/-- A hexadecimal group. -/
def readGroup : Reader UInt16 := fun text =>
  let (run, rest) := text.span fun char => (hexValue? char).isSome
  if run.isEmpty ∨ 4 < run.length then none
  else some (UInt16.ofNat (run.foldl (fun total char => total * 16 + (hexValue? char).getD 0) 0), rest)

/-- Groups with colons between them, as many as there are up to a limit. The flag tells whether they end with
a dotted address, which takes the place of two groups. `first` is set before the first group. -/
def readGroups : Nat → Bool → List Char → List UInt16 × Bool × List Char
  | 0, _, text => ([], false, text)
  | limit + 1, first, text =>
    let start := if first then some text else (readMark ':' text).map (·.2)
    let dotted := if limit = 0 then none else start.bind readV4
    match dotted with
    | some (octets, rest) =>
      ([Address.ofBytes octets[0] octets[1], Address.ofBytes octets[2] octets[3]], true, rest)
    | none =>
      match start.bind readGroup with
      | some (group, rest) =>
        let (groups, flag, rest) := readGroups limit false rest
        (group :: groups, flag, rest)
      | none => ([], false, text)

/-- Eight groups from a list, if it has that length. -/
def toGroups? (groups : List UInt16) : Option (Vector UInt16 8) :=
  if length : groups.toArray.size = 8 then some ⟨groups.toArray, length⟩ else none

def readV6 : Reader (Vector UInt16 8) := fun text => do
  let (head, dotted, rest) := readGroups 8 true text
  if head.length = 8 then return (← toGroups? head, rest)
  if dotted then none
  let ((), rest) ← readMark ':' rest
  let ((), rest) ← readMark ':' rest
  let (tail, _, rest) := readGroups (7 - head.length) true rest
  let zeros := List.replicate (8 - head.length - tail.length) 0
  return (← toGroups? (head ++ zeros ++ tail), rest)

def readAddress : Reader Address := fun text =>
  match readV4 text with
  | some (octets, rest) => some (.v4 octets, rest)
  | none => (readV6 text).map fun (groups, rest) => (.v6 groups, rest)

namespace Address

def ofChars? (text : List Char) : Option Address :=
  match readAddress text with
  | some (address, []) => some address
  | _ => none

def ofText? (text : String) : Option Address := ofChars? text.toList

end Address

end Discovery.Net
