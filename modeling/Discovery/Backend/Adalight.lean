import Discovery.Backend.Device
import Discovery.Category.Codec
/-!
# Adalight controllers

LED controllers on a serial port. Discovery lists the ports on USB and reports each as a sighting of the board
family that its vendor ships; ports of no known family are reported if the options say so. The list that is
returned and the sightings describe the same ports in the same order.
-/
namespace Discovery

open Serial (Port UsbIdentity)

namespace Adalight

def kind : String := "adalight"

structure Options where
  /-- The device path, needed only to open the port. -/
  output : Option String
  baudRate : Nat
  /-- Report USB ports of no known board family. -/
  includeUnrecognized : Bool
  deriving DecidableEq, Repr

namespace Options

def default : Options := ⟨none, 2000000, true⟩

def decodeOutput : Json → Except DecodeError (Option String)
  | .null => .ok none
  | value => return some (← value.decodeText "a string")

/-- Options with one field of a configuration taken over. -/
def withField (options : Options) (field : String × Json) : Except DecodeError Options :=
  let (key, value) := field
  if key = "output" then return { options with output := ← decodeOutput value }
  else if key = "baud_rate" then return { options with baudRate := ← value.decodeNatural 32 }
  else if key = "include_unrecognized" then
    return { options with includeUnrecognized := ← Json.decodeBoolean value }
  else throw (.unknownField key ["output", "baud_rate", "include_unrecognized"])

def ofFields (fields : Json.Fields) : Except DecodeError Options := fields.foldlM withField default

end Options

def openTimeoutMillis : Nat := 500

/-- A port found by enumeration that is to be reported. -/
structure Board where
  port : String
  identity : UsbIdentity
  deriving DecidableEq, Repr

namespace Board

def category (board : Board) : Category := .ofVendor board.identity.vendor

/-- The product name, else the name of the manufacturer. -/
def hostName (board : Board) : String :=
  match board.identity.productName, board.identity.manufacturerName with
  | some product, _ => product
  | none, some manufacturer => manufacturer
  | none, none => ""

def sighting (board : Board) : Sighting :=
  { category := board.category, address := board.port, port := 0, hostName := board.hostName, live := true }

def toJson (board : Board) : Json :=
  .object [
    ("category", board.category.toJson),
    ("manufacturer", match board.identity.manufacturerName with
      | some name => .string name
      | none => .null),
    ("pid", .string (String.ofList (Decimal.hexPadded 4 board.identity.product.toNat))),
    ("port", .string board.port),
    ("vid", .string (String.ofList (Decimal.hexPadded 4 board.identity.vendor.toNat)))]

end Board

/-- The ports that a discovery reports, in the order of enumeration. -/
def boards (options : Options) (ports : List Port) : List Board :=
  ports.filterMap fun port =>
    match port.attachment with
    | .usb identity =>
      let board : Board := ⟨port.name, identity⟩
      if board.category = .serial ∧ !options.includeUnrecognized then none else some board
    | _ => none

end Adalight

/-- An adalight controller. -/
structure Adalight where
  options : Adalight.Options
  /-- The name reported by the open port, if a port is open. -/
  opened : Option (Option String)
  deriving DecidableEq, Repr

namespace Adalight

def ofOptions (fields : Json.Fields) : Except BackendError (Adalight × List Log) :=
  match Options.ofFields fields with
  | .ok options => .ok (⟨options, none⟩, [])
  | .error cause => .error (.invalidConfig kind cause)

/-- Open the configured port. A port that is already open is replaced only when the new one opens. -/
def openOutput (host : Host) (device : Adalight) : Reply Adalight Unit :=
  match device.options.output with
  | none => { device, result := .error (.notConfigured kind), effects := .none }
  | some path =>
    let rate := device.options.baudRate
    let effects : Effects := {
      sightings := []
      attempts := [⟨path, rate, openTimeoutMillis⟩]
      creations := []
      logs := [.debug ("Opening " ++ path ++ " at " ++ String.ofList (Decimal.digits rate) ++ " baud")] }
    match host.openPort path with
    | .ok name => { device := { device with opened := some name }, result := .ok (), effects }
    | .error reason => { device, result := .error (.serial reason), effects }

def closeOutput (device : Adalight) : Reply Adalight Unit :=
  match device.opened with
  | none => { device, result := .ok (), effects := .none }
  | some name => {
      device := { device with opened := none }
      result := .ok ()
      effects := .ofLogs [.debug ("Closing " ++ name.getD "")] }

def discover (host : Host) (device : Adalight) : Reply Adalight Json :=
  match host.ports with
  | .unavailable reason => { device, result := .error (.serial reason), effects := .none }
  | .listed ports =>
    let found := boards device.options ports
    let count := String.ofList (Decimal.digits found.length)
    { device
      result := .ok (.object [("devices", .array (found.map Board.toJson))])
      effects := {
        sightings := found.map Board.sighting
        attempts := []
        creations := []
        logs := [.debug ("Serial enumeration found " ++ count ++ " device(s)")] } }

instance : Device Adalight where
  kind _ := kind
  ready device := device.opened.isSome
  openOutput := openOutput
  closeOutput := closeOutput
  discover host _ device := discover host device

end Adalight

end Discovery
