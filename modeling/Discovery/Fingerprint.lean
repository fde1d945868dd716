import Discovery.Hash.Sha256
import Discovery.Record.Codec
/-!
# Fingerprints

A fingerprint tells whether the membership of a list of services has changed. It is the digest of a byte
string that lists the identity and host name of every record in key order, each as compact JSON followed by a
NUL. JSON text holds no NUL, so the byte string determines the list; deadlines and liveness are not part of
it, so a refresh leaves it alone.
-/
namespace Discovery.Fingerprint

/-- Order by category, then address, then port. Text is compared by its characters' code points. -/
def keyLe (left right : Record) : Bool :=
  if left.category ≠ right.category then left.category ≤ right.category
  else if left.address ≠ right.address then left.address < right.address
  else left.port ≤ right.port

/-- The text of one record. -/
def entry (record : Record) : List Char := (Json.object record.memberFields).write ++ ['\x00']

/-- The text that is digested. -/
def text (records : List Record) : List Char := (records.mergeSort keyLe).flatMap entry

/-- The bytes that are digested. -/
def bytes (records : List Record) : List UInt8 := (String.ofList (text records)).toUTF8.toList

end Discovery.Fingerprint

namespace Discovery

/-- The fingerprint of a list of services. -/
def fingerprint (records : List Record) : String := Hash.Sha256.hexDigest (Fingerprint.bytes records)

end Discovery
