import Discovery.Decode
import Discovery.Host.Surroundings
import Discovery.Json.Decode
import Discovery.Log
import Discovery.Record
/-!
# Devices

A device is an output that can be opened and closed and that may find other devices attached to the host. What a
call on a device does is a value: the device afterwards, the result, the sightings it reports, the serial ports
it tried to open, the files it tried to create, and its log lines.
-/
namespace Discovery

inductive BackendError where
  | missingKind
  | unknownKind (kind : String)
  | invalidConfig (kind : String) (cause : DecodeError)
  | notConfigured (kind : String)
  | io (reason : String)
  | serial (reason : String)
  deriving DecidableEq, Repr

def BackendError.message : BackendError → String
  | missingKind => "Backend config has no \"type\" field"
  | unknownKind kind => "Unknown backend type: " ++ kind
  | invalidConfig kind cause => "Invalid " ++ kind ++ " config: " ++ Json.message cause
  | notConfigured kind => kind ++ " backend has no output configured"
  | io reason => "IO error: " ++ reason
  | serial reason => "Serial port error: " ++ reason

/-- One attempt to open a serial port. -/
structure OpenAttempt where
  path : String
  baudRate : Nat
  timeoutMillis : Nat
  deriving DecidableEq, Repr

/-- What a call does beside its result. -/
structure Effects where
  sightings : List Sighting
  attempts : List OpenAttempt
  /-- The paths at which a file was to be created, whether or not it could be. -/
  creations : List String
  logs : List Log
  deriving DecidableEq

namespace Effects

def none : Effects := ⟨[], [], [], []⟩

instance : Append Effects where
  append first second := ⟨first.sightings ++ second.sightings, first.attempts ++ second.attempts,
    first.creations ++ second.creations, first.logs ++ second.logs⟩

def ofLogs (logs : List Log) : Effects := ⟨[], [], [], logs⟩

end Effects

/-- The answer to a call on a device. -/
structure Reply (δ α : Type) where
  device : δ
  result : Except BackendError α
  effects : Effects

class Device (δ : Type) where
  kind : δ → String
  /-- The output is open. -/
  ready : δ → Bool
  openOutput : Host → δ → Reply δ Unit
  closeOutput : δ → Reply δ Unit
  /-- Look for attached devices. The parameters may restrict the search; no kind makes use of them. -/
  discover : Host → (params : Json) → δ → Reply δ Json

end Discovery
