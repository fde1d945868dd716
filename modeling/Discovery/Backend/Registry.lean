import Discovery.Backend.Adalight
import Discovery.Backend.FileOutput
/-!
# Backends by kind

A configuration names the kind of backend under `type`; all its other fields are the options of that kind. A kind
checks its options when a device is built, so a faulty configuration never yields a device.
-/
namespace Discovery

/-- Build a device from options. -/
abbrev Constructor (δ : Type) := Json.Fields → Except BackendError (δ × List Log)

/-- The constructors of the known kinds. -/
abbrev Registry (δ : Type) := List (String × Constructor δ)

/-- A configuration split into the kind and its options. -/
def splitKind? : Json → Option (String × Json.Fields)
  | .object fields =>
    match Json.Fields.find? fields "type" with
    | some (.string kind) => some (kind, Json.Fields.erase fields "type")
    | _ => none
  | _ => none

/-- What building a device from a configuration came to. -/
structure Construction (δ : Type) where
  result : Except BackendError (δ × List Log)
  /-- The kind and the options that a constructor was given, if there was one to give them to. -/
  given : Option (String × Json.Fields)

namespace Registry

variable {δ : Type}

def construct (registry : Registry δ) (config : Json) : Construction δ :=
  match splitKind? config with
  | none => ⟨.error .missingKind, none⟩
  | some (kind, options) =>
    match registry.lookup kind with
    | none => ⟨.error (.unknownKind kind), none⟩
    | some constructor => ⟨constructor options, some (kind, options)⟩

end Registry

/-- The devices of the built-in kinds. -/
inductive Backend where
  | adalight (device : Adalight)
  | file (device : FileOutput)
  deriving DecidableEq, Repr

namespace Backend

/-- The answer of a device as an answer of the backend that holds it. -/
def lift {δ α : Type} (wrap : δ → Backend) (reply : Reply δ α) : Reply Backend α :=
  { device := wrap reply.device, result := reply.result, effects := reply.effects }

instance : Device Backend where
  kind
    | adalight device => Device.kind device
    | file device => Device.kind device
  ready
    | adalight device => Device.ready device
    | file device => Device.ready device
  openOutput host
    | adalight device => lift adalight (Device.openOutput host device)
    | file device => lift file (Device.openOutput host device)
  closeOutput
    | adalight device => lift adalight (Device.closeOutput device)
    | file device => lift file (Device.closeOutput device)
  discover host params
    | adalight device => lift adalight (Device.discover host params device)
    | file device => lift file (Device.discover host params device)

/-- A constructor of one kind as a constructor of backends. -/
def constructor {δ : Type} (wrap : δ → Backend) (build : Constructor δ) : Constructor Backend :=
  fun options => (build options).map fun (device, logs) => (wrap device, logs)

/-- The built-in kinds. -/
def registry : Registry Backend :=
  [(Adalight.kind, constructor adalight Adalight.ofOptions),
   (FileOutput.kind, constructor file FileOutput.ofOptions)]

end Backend

end Discovery
