import Discovery.Category
import Discovery.Net.Writer
import Discovery.Record
/-!
# Announcements

A service as it is announced over multicast DNS, and the sighting that a resolved announcement amounts to. A
service may be announced at several addresses; the sighting takes the least address of version 4, and the
least of version 6 only if there is none, so that repeated resolutions name the same entry.
-/
namespace Discovery.Mdns

open Net (Address)

structure Announcement where
  serviceType : String
  instanceName : String
  hostName : String
  addresses : List Address
  port : UInt16
  /-- Text properties as keys and values. -/
  properties : List (String × String)
  /-- The responder keeps the addresses up to date. -/
  tracksAddresses : Bool
  deriving DecidableEq, Repr

/-- The name under which an instance of a service type is announced. -/
def fullName (instanceName serviceType : String) : String := instanceName ++ "." ++ serviceType

/-- Take an ending off a text, if it ends so. -/
def dropEnding? (ending text : List Char) : Option (List Char) :=
  if ending.isSuffixOf text then some (text.take (text.length - ending.length)) else none

/-- A host name that ends in the local domain twice loses one of them. -/
def normalHostName (name : String) : String :=
  match dropEnding? ".local.local.".toList name.toList with
  | some stem => String.ofList stem ++ ".local."
  | none => name

/-- Take an ending off a text as often as the text ends so. -/
def dropEndings (ending text : List Char) : List Char :=
  match dropEnding? ending text with
  | some rest => if rest.length < text.length then dropEndings ending rest else text
  | none => text
  termination_by text.length

/-- A host name without its final dots and local domains. -/
def bareHostName (name : String) : String :=
  String.ofList (dropEndings ".local".toList (dropEndings ['.'] name.toList))

namespace Announcement

def fullName (announcement : Announcement) : String :=
  Mdns.fullName announcement.instanceName announcement.serviceType

/-- The address by which a service is entered: version 4 first, then the least. -/
def address? (announcement : Announcement) : Option Address :=
  match Address.least? (announcement.addresses.filter Address.isV4) with
  | some address => some address
  | none => Address.least? announcement.addresses

/-- The sighting of a resolved service. A service without an address is none. -/
def sighting? (announcement : Announcement) (category : Category) : Option Sighting :=
  announcement.address?.map fun address => {
    category
    address := address.toText
    port := announcement.port
    hostName := bareHostName announcement.hostName
    live := true }

end Announcement

end Discovery.Mdns
