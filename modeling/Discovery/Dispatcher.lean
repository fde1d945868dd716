import Discovery.Backend.Registry
import Discovery.Channel
/-!
# Scan requests

Who serves a scan request. Requests for an announced family go to the browser through a bounded channel. Requests
for serial ports run the configured backend, which is built at the first of them and kept until the dispatcher
is closed; if it cannot be built it is never tried again. The board families have no scan of their own.

What happens to the backend is recorded as a list of calls, so that the pattern of calls over a whole run can be
stated.
-/
namespace Discovery

/-- A call on a backend. A call to build one is recorded when the kind has a constructor. -/
inductive BackendCall where
  | construct (kind : String) (options : Json.Fields)
  | discover (kind : String) (params : Json)
  | close (kind : String)
  deriving Repr

/-- The backend for serial ports. -/
inductive SerialBackend (δ : Type) where
  | unused
  | unavailable
  | running (device : δ)
  deriving Repr

structure Dispatcher (δ : Type) where
  registry : Registry δ
  /-- The configuration of the backend for serial ports. -/
  config : Json
  serial : SerialBackend δ

/-- What a request did. -/
structure Dispatch (δ : Type) where
  dispatcher : Dispatcher δ
  /-- The channel to the browser afterwards. -/
  requests : Channel Category
  calls : List BackendCall
  effects : Effects

namespace Dispatcher

variable {δ : Type} [Device δ]

/-- The parameters of every discovery: none. -/
def params : Json := .object []

def runDiscovery (host : Host) (device : δ) : δ × List BackendCall × Effects :=
  let reply := Device.discover host params device
  let logs := match reply.result with
    | .ok _ => []
    | .error error => [Log.error ("Serial discovery failed: " ++ error.message)]
  (reply.device, [.discover (Device.kind device) params], reply.effects ++ .ofLogs logs)

/-- Run the backend for serial ports, building it first if this is its first use. -/
def scanSerial (dispatcher : Dispatcher δ) (host : Host) : Dispatcher δ × List BackendCall × Effects :=
  match dispatcher.serial with
  | .unavailable => (dispatcher, [], .ofLogs [.debug "Skipping serial scan, backend unavailable"])
  | .running device =>
    let (device, calls, effects) := runDiscovery host device
    ({ dispatcher with serial := .running device }, calls, effects)
  | .unused =>
    let construction := dispatcher.registry.construct dispatcher.config
    let built := match construction.given with
      | some (kind, options) => [BackendCall.construct kind options]
      | none => []
    match construction.result with
    | .error error =>
      ({ dispatcher with serial := .unavailable }, built,
        .ofLogs [.error ("Failed to construct serial backend: " ++ error.message)])
    | .ok (device, logs) =>
      let announced := Log.info ("Constructed " ++ Device.kind device ++ " backend for serial discovery")
      let (device, calls, effects) := runDiscovery host device
      ({ dispatcher with serial := .running device }, built ++ calls,
        .ofLogs (logs ++ [announced]) ++ effects)

/-- Ask the browser for a scan. A request that the channel does not take is dropped with a warning. -/
def scanAnnounced (requests : Channel Category) (category : Category) : Channel Category × List Log :=
  match requests.send category with
  | .ok requests => (requests, [])
  | .error error =>
    (requests, [.warn ("Failed to request " ++ category.label ++ " scan: " ++ error.message)])

/-- Serve a scan request. -/
def trigger (dispatcher : Dispatcher δ) (requests : Channel Category) (host : Host) (category : Category) :
    Dispatch δ :=
  let asked := Effects.ofLogs [.debug ("Scan requested for " ++ category.label)]
  match category with
  | .serial =>
    let (dispatcher, calls, effects) := dispatcher.scanSerial host
    { dispatcher, requests, calls, effects := asked ++ effects }
  | .hyperhdr | .wled | .hue =>
    let (requests, logs) := scanAnnounced requests category
    { dispatcher, requests, calls := [], effects := asked ++ .ofLogs logs }
  | .pico | .esp32s2 | .esp | .unknown => { dispatcher, requests, calls := [], effects := asked }

/-- Close the backend, when the dispatcher is given up. -/
def close (dispatcher : Dispatcher δ) : List BackendCall × Effects :=
  match dispatcher.serial with
  | .running device =>
    let reply := Device.closeOutput device
    let kind := Device.kind device
    let logs := match reply.result with
      | .ok () => []
      | .error error => [Log.error ("Failed to close " ++ kind ++ " backend: " ++ error.message)]
    ([.close kind], reply.effects ++ .ofLogs logs)
  | .unused | .unavailable => ([], .none)

end Dispatcher

end Discovery
