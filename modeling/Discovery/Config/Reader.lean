import Discovery.Config.Settings
import Discovery.Text.Utf8
import Discovery.Toml.Decode
import Discovery.Toml.Reader
/-!
# Reading the configuration

The configuration is a TOML document with a table for every section. Unknown keys are ignored and absent ones have
defaults, so the empty document is a configuration. Faults are reported in the order of the document; the range of
the window is checked last. A section may also be an array of its values in order.
-/
namespace Discovery

open Toml (Table Value)

structure Config where
  discovery : DiscoverySettings
  advertise : AdvertiseSettings
  /-- The configuration of the backend for serial ports. -/
  serial : Table
  api : ApiSettings

inductive ConfigError where
  /-- The text is no TOML document. -/
  | syntactic
  | data (cause : DecodeError)
  /-- The window is out of range. -/
  | window (seconds : Nat)
  deriving DecidableEq, Repr

/-- Why a configuration file cannot be used. -/
inductive LoadError where
  | unreadable (reason : String)
  | invalid (cause : ConfigError)
  deriving DecidableEq, Repr

def ConfigError.message : ConfigError → String
  | syntactic => "TOML parse error"
  | data cause => cause.message Toml.floatText
  | window seconds =>
    "discovery.ttl_window_secs must be between 1 and " ++
      String.ofList (Decimal.digits DiscoverySettings.greatestWindow) ++ ", got " ++
      String.ofList (Decimal.digits seconds)

/-- What was being done with the file when the error arose. -/
def LoadError.context (path : String) : LoadError → String
  | unreadable _ => "Failed to read config file: " ++ path
  | invalid _ => "Failed to parse config file: " ++ path

namespace DiscoverySettings

def fields : List String := ["ttl_window_secs", "maintenance_interval_secs", "interface"]

def withEntry (settings : DiscoverySettings) (entry : String × Value) :
    Except DecodeError DiscoverySettings :=
  match entry with
  | ("ttl_window_secs", value) => return { settings with ttlWindow := ← value.decodeNatural 64 }
  | ("maintenance_interval_secs", value) =>
    return { settings with maintenanceInterval := ← value.decodeNatural 64 }
  | ("interface", value) => return { settings with interface := some (← value.decodeText) }
  | _ => return settings

def ofValue (value : Value) : Except DecodeError DiscoverySettings := do
  (← value.sectionEntries "DiscoveryConfig" fields).foldlM withEntry default

end DiscoverySettings

namespace AdvertiseSettings

def fields : List String := ["enabled", "instance_name", "port"]

def withEntry (settings : AdvertiseSettings) (entry : String × Value) :
    Except DecodeError AdvertiseSettings :=
  match entry with
  | ("enabled", value) => return { settings with enabled := ← value.decodeBoolean }
  | ("instance_name", value) => return { settings with instanceName := some (← value.decodeText) }
  | ("port", value) => return { settings with port := UInt16.ofNat (← value.decodeNatural 16) }
  | _ => return settings

def ofValue (value : Value) : Except DecodeError AdvertiseSettings := do
  (← value.sectionEntries "AdvertiseConfig" fields).foldlM withEntry default

end AdvertiseSettings

namespace ApiSettings

def fields : List String := ["listen"]

def withEntry (settings : ApiSettings) (entry : String × Value) : Except DecodeError ApiSettings :=
  match entry with
  | ("listen", value) => return { settings with listen := ← value.decodeText }
  | _ => return settings

def ofValue (value : Value) : Except DecodeError ApiSettings := do
  (← value.sectionEntries "ApiConfig" fields).foldlM withEntry default

end ApiSettings

namespace Config

/-- The backend for serial ports if none is configured. -/
def defaultSerial : Table := [("type", .text "adalight")]

def default : Config := ⟨.default, .default, defaultSerial, .default⟩

def withEntry (config : Config) (entry : String × Value) : Except DecodeError Config :=
  match entry with
  | ("discovery", value) => return { config with discovery := ← DiscoverySettings.ofValue value }
  | ("advertise", value) => return { config with advertise := ← AdvertiseSettings.ofValue value }
  | ("serial", value) => return { config with serial := ← value.tableEntries }
  | ("api", value) => return { config with api := ← ApiSettings.ofValue value }
  | _ => return config

/-- The window lies within its range. -/
def check (config : Config) : Except ConfigError Config :=
  let window := config.discovery.ttlWindow
  if 1 ≤ window ∧ window ≤ DiscoverySettings.greatestWindow then .ok config else .error (.window window)

/-- The configuration that a table describes. An empty `serial` section stands for the default. -/
def ofTable (table : Table) : Except ConfigError Config :=
  match table.foldlM withEntry default with
  | .error cause => .error (.data cause)
  | .ok config => check { config with serial := if config.serial.isEmpty then defaultSerial else config.serial }

/-- A fault in the data counts as one only if the document is sound, dates that are never used included. -/
def ofText (text : String) : Except ConfigError Config :=
  match Toml.ofText? text with
  | none => .error .syntactic
  | some table =>
    match ofTable table with
    | .error (.data cause) => .error (if Toml.sound table then .data cause else .syntactic)
    | result => result

/-- The configuration in a file, given what reading the file answers. -/
def load (content : Except String (List UInt8)) : Except LoadError Config :=
  match content with
  | .error reason => .error (.unreadable reason)
  | .ok bytes =>
    match Text.Utf8.decode? bytes with
    | none => .error (.unreadable "stream did not contain valid UTF-8")
    | some chars => (ofText (String.ofList chars)).mapError .invalid

/-- The configuration of the serial backend as JSON. -/
def serialJson (config : Config) : Json := Toml.tableToJson config.serial

end Config

end Discovery
