import Discovery.Time.Instant
/-!
# Settings

The sections of the configuration with their defaults.
-/
namespace Discovery

open Time (Span)

structure DiscoverySettings where
  /-- How long a sighting keeps an entry alive, in seconds. -/
  ttlWindow : Nat
  /-- The time between two clean-ups, in seconds. -/
  maintenanceInterval : Nat
  /-- The only interface to use, all interfaces if there is none. -/
  interface : Option String
  deriving DecidableEq, Repr

namespace DiscoverySettings

def default : DiscoverySettings := ⟨120, 30, none⟩

/-- The longest window, one day. -/
def greatestWindow : Nat := 86400

/-- The window, at most a day. -/
def window (settings : DiscoverySettings) : Span := .ofSeconds (min settings.ttlWindow greatestWindow)

end DiscoverySettings

structure AdvertiseSettings where
  enabled : Bool
  /-- The name of the announced instance, the host name if there is none. -/
  instanceName : Option String
  port : UInt16
  deriving DecidableEq, Repr

def AdvertiseSettings.default : AdvertiseSettings := ⟨true, none, 8090⟩

structure ApiSettings where
  /-- The socket address to serve on. -/
  listen : String
  deriving DecidableEq, Repr

def ApiSettings.default : ApiSettings := ⟨"[::]:8091"⟩

end Discovery
