import Discovery.Category.Codec
import Discovery.Record
import Discovery.Time.Reader
import Discovery.Time.Writer
/-!
# Records in JSON

A record is written as an object of its six fields. It is read from such an object, in which unknown keys
are ignored, or from an array of the six values. In an object the values are checked in key order before
any field is missed, and missing fields are reported in the order in which they are written.
-/
namespace Discovery

namespace Time.Instant

def toJson (instant : Instant) : Json := .string instant.toText

def ofJson (value : Json) : Except DecodeError Instant := do
  let text ← value.decodeText "an RFC 3339 formatted date and time string"
  match ofText text with
  | .ok instant => return instant
  | .error error => throw (.malformed error.message)

end Time.Instant

namespace Sighting

/-- Identity and host name, the fields that a change of membership changes. -/
def memberFields (sighting : Sighting) : Json.Fields :=
  [("category", sighting.category.toJson), ("address", .string sighting.address),
    ("port", .integer sighting.port.toNat), ("host_name", .string sighting.hostName)]

def fields (sighting : Sighting) : Json.Fields :=
  sighting.memberFields ++ [("exists", .boolean sighting.live)]

end Sighting

namespace Record

def toJson (record : Record) : Json :=
  .object (record.fields ++ [("expiry", record.expiry.toJson)])

def listToJson (records : List Record) : Json := .array (records.map toJson)

def ofFields (fields : Json.Fields) : Except DecodeError Record := do
  let address ← fields.decode? "address" (·.decodeText "a string")
  let category ← fields.decode? "category" Category.ofJson
  let live ← fields.decode? "exists" Json.decodeBoolean
  let expiry ← fields.decode? "expiry" Time.Instant.ofJson
  let hostName ← fields.decode? "host_name" (·.decodeText "a string")
  let port ← fields.decode? "port" Json.decodePort
  let category ← require "category" category
  let address ← require "address" address
  let port ← require "port" port
  let hostName ← require "host_name" hostName
  let live ← require "exists" live
  let expiry ← require "expiry" expiry
  return { category, address, port, hostName, live, expiry }

/-- What an array of values is expected to hold. -/
def arrayShape : String := "struct DiscoveryRecord with 6 elements"

/-- The next of an array's values, where `index` of them have been taken. -/
def takeItem {α : Type} (index : Nat) (decode : Json → Except DecodeError α) :
    List Json → Except DecodeError (α × List Json)
  | [] => .error (.wrongLength index arrayShape)
  | item :: rest => return (← decode item, rest)

def ofItems (items : List Json) : Except DecodeError Record := do
  let (category, rest) ← takeItem 0 Category.ofJson items
  let (address, rest) ← takeItem 1 (·.decodeText "a string") rest
  let (port, rest) ← takeItem 2 Json.decodePort rest
  let (hostName, rest) ← takeItem 3 (·.decodeText "a string") rest
  let (live, rest) ← takeItem 4 Json.decodeBoolean rest
  let (expiry, rest) ← takeItem 5 Time.Instant.ofJson rest
  if rest.isEmpty then return { category, address, port, hostName, live, expiry }
  else throw (.wrongLength items.length "fewer elements in array")

def ofJson : Json → Except DecodeError Record
  | .object fields => ofFields fields
  | .array items => ofItems items
  | other => .error (.wrongType other.found "struct DiscoveryRecord")

end Record

end Discovery
