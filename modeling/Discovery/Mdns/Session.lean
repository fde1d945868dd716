import Discovery.Config.Settings
import Discovery.Decimal.Digits
import Discovery.Log
import Discovery.Mdns.Announcement
import Discovery.Mdns.Responder
import Discovery.Net.Interfaces
import Discovery.Text.Utf8
/-!
# The session of this host

This host announces itself as a session that peers can find. It does so under its host name and at the
addresses of its interfaces, loopback excepted. Its own browser finds the session too; the addresses being
local, that sighting is ignored.
-/
namespace Discovery.Mdns

open Net (Address Interfaces)

/-- What the system says about this host. A host name is any sequence of bytes. -/
structure HostIdentity where
  hostName : Except String (List UInt8)
  interfaces : Interfaces

inductive SessionError where
  | noHostName (reason : String)
  | noInterfaces (reason : String)
  | notRegistered (reason : String)
  | notUnregistered (reason : String)
  deriving DecidableEq, Repr

/-- The messages of an error, the general one first. -/
def SessionError.chain : SessionError → List String
  | noHostName reason => ["Failed to get system hostname", reason]
  | noInterfaces reason => ["Failed to list network interfaces", reason]
  | notRegistered reason => ["Failed to register mDNS service", reason]
  | notUnregistered reason => ["Failed to unregister mDNS service", reason]

/-- The outcome of calls on the responder. -/
structure Outcome (α : Type) where
  result : Except SessionError α
  calls : List Call
  logs : List Log

namespace Session

def serviceType : String := "_hyperhdr-http._tcp.local."

/-- The version of the protocol that peers are told. -/
def properties : List (String × String) := [("version", "0.1.0")]

/-- The announcement of a host of that name at these addresses. -/
def announcement (settings : AdvertiseSettings) (hostName : String) (addresses : List Address) : Announcement where
  serviceType := serviceType
  instanceName := settings.instanceName.getD hostName
  hostName := normalHostName (hostName ++ ".local.")
  addresses := addresses.filter (!·.isLoopback)
  port := settings.port
  properties := properties
  tracksAddresses := true

/-- The announcement of this host. The host name is asked for before the interfaces. -/
def describe (settings : AdvertiseSettings) (identity : HostIdentity) : Except SessionError Announcement :=
  match identity.hostName, identity.interfaces with
  | .error reason, _ => .error (.noHostName reason)
  | .ok _, .unreadable reason => .error (.noInterfaces reason)
  | .ok name, .readable addresses =>
    .ok (announcement settings (String.ofList (Text.Utf8.decodeLossy name)) addresses)

/-- Announce this host. -/
def register (settings : AdvertiseSettings) (identity : HostIdentity) (responder : Responder) :
    Outcome Announcement :=
  match describe settings identity with
  | .error error => ⟨.error error, [], []⟩
  | .ok session =>
    let call := Call.register session.fullName
    match responder call with
    | .error reason => ⟨.error (.notRegistered reason), [call], []⟩
    | .ok () =>
      let port := String.ofList (Decimal.digits session.port.toNat)
      ⟨.ok session, [call],
        [.info ("Registered " ++ serviceType ++ " as " ++ session.instanceName ++ " on port " ++ port)]⟩

/-- Withdraw an announcement. -/
def unregister (session : Announcement) (responder : Responder) : Outcome Unit :=
  let call := Call.unregister session.fullName
  match responder call with
  | .error reason => ⟨.error (.notUnregistered reason), [call], []⟩
  | .ok () => ⟨.ok (), [call], [.info ("Unregistered " ++ session.fullName)]⟩

end Session

end Discovery.Mdns
