import Discovery.Backend.Device
/-!
# File outputs

An output that writes to a plain file. The file is created when the output is opened, and there is nothing to
discover behind it.
-/
namespace Discovery

structure FileOutput where
  path : String
  opened : Bool
  deriving DecidableEq, Repr

namespace FileOutput

def kind : String := "file"

def defaultPath : String := "/dev/null"

/-- The path with one field of a configuration taken over. -/
def withField (_path : String) (field : String × Json) : Except DecodeError String :=
  let (key, value) := field
  if key = "output" then value.decodeText "path string" else throw (.unknownField key ["output"])

def ofOptions (fields : Json.Fields) : Except BackendError (FileOutput × List Log) :=
  match fields.foldlM withField defaultPath with
  | .ok path => .ok (⟨path, false⟩, [.debug ("Output filename: " ++ path)])
  | .error cause => .error (.invalidConfig kind cause)

/-- Create the file, unless it is open already. -/
def openOutput (host : Host) (device : FileOutput) : Reply FileOutput Unit :=
  if device.opened then { device, result := .ok (), effects := .none }
  else
    let effects : Effects := { sightings := [], attempts := [], creations := [device.path], logs := [] }
    match host.createFile device.path with
    | .ok () => { device := { device with opened := true }, result := .ok (), effects }
    | .error reason => { device, result := .error (.io reason), effects }

instance : Device FileOutput where
  kind _ := kind
  ready device := device.opened
  openOutput := openOutput
  closeOutput device := { device := { device with opened := false }, result := .ok (), effects := .none }
  discover _ _ device := { device, result := .ok (.object [("devices", .array [])]), effects := .none }

end FileOutput

end Discovery
