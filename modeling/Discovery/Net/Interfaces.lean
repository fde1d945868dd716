import Discovery.Log
import Discovery.Net.Reader
/-!
# Addresses of this host

A sighting at an address of this host is the host seeing itself. An announced address is compared in
canonical form with the addresses of the interfaces, after brackets and a zone have been taken off it. A
device path or host name is no address and so never local, and while the interfaces cannot be read nothing is.
-/
namespace Discovery.Net

/-- The interface list as the system answers it. -/
inductive Interfaces where
  | readable (addresses : List Address)
  | unreadable (reason : String)
  deriving DecidableEq, Repr

/-- An announced address without its brackets and its zone. -/
def bareAddress (text : List Char) : List Char :=
  let opened := text.dropWhile (· == '[')
  let closed := (opened.reverse.dropWhile (· == ']')).reverse
  closed.takeWhile (· != '%')

/-- The canonical address that an announced text denotes. -/
def announced? (text : String) : Option Address :=
  (Address.ofChars? (bareAddress text.toList)).map Address.canonical

namespace Interfaces

/-- The announced address belongs to this host. -/
def isLocal (interfaces : Interfaces) (text : String) : Bool :=
  match interfaces, announced? text with
  | readable addresses, some address => addresses.any fun own => own.canonical == address
  | _, _ => false

/-- Why the question could not be answered. It is only asked of texts that denote an address. -/
def lookupLogs (interfaces : Interfaces) (text : String) : List Log :=
  match interfaces, announced? text with
  | unreadable reason, some _ => [.warn ("Failed to list network interfaces: " ++ reason)]
  | _, _ => []

end Interfaces

end Discovery.Net
