import Discovery.Config.Reader
import Discovery.Maintenance
import Discovery.Mdns.Session
import Discovery.Net.Socket
/-!
# The daemon

The life of the daemon: it reads its configuration, starts the worker and the responder, announces this host, starts
the browser and a first scan, and listens for requests. Any of these steps can fail, and then the daemon ends with
the chain of reasons. When it is told to end, it stops its parts in turn; what fails then is only logged.
-/
namespace Discovery

open Mdns (Announcement Call HostIdentity Responder SessionError)

/-- The surroundings in which the daemon starts. -/
structure Machine where
  setting : Setting
  identity : HostIdentity
  /-- Listening on a host and port. -/
  listen : String → UInt16 → Except String Unit

inductive StartError where
  | config (cause : LoadError)
  | responder (reason : String)
  | disableInterfaces (reason : String)
  | enableInterface (name reason : String)
  | session (cause : SessionError)
  | listen (address : String) (cause : Net.ListenError)
  deriving DecidableEq, Repr

/-- The messages of an error, the general one first. -/
def StartError.chain (describe : ConfigError → String) (path : String) : StartError → List String
  | config cause => ["Failed to load config from " ++ path, cause.context path,
      match cause with
      | .unreadable reason => reason
      | .invalid error => describe error]
  | responder reason => ["Failed to create mDNS daemon", reason]
  | disableInterfaces reason => ["Failed to disable default interfaces", reason]
  | enableInterface name reason => ["Failed to enable interface " ++ name, reason]
  | session cause => cause.chain
  | listen address cause => ["Failed to bind to " ++ address, cause.message]

structure Daemon where
  service : Service Backend
  session : Option Announcement
  maintenance : Maintenance

namespace Daemon

/-- Make calls one after the other until one fails. The result is the calls that have been made, and the one that
failed with its reason. -/
def callAll (responder : Responder) : List Call → List Call × Option (Call × String)
  | [] => ([], none)
  | call :: rest =>
    match responder call with
    | .error reason => ([call], some (call, reason))
    | .ok () =>
      let (made, failure) := callAll responder rest
      (call :: made, failure)

/-- Restrict the responder to one interface, if one is configured. -/
def interfaceCalls (settings : DiscoverySettings) : List Call :=
  match settings.interface with
  | none => []
  | some name => [.disableInterfaces, .enableInterface name]

def callError (call : Call) (reason : String) : StartError :=
  match call with
  | .disableInterfaces => .disableInterfaces reason
  | .enableInterface name => .enableInterface name reason
  | _ => .responder reason

def announce (config : Config) (machine : Machine) : Except SessionError (Option Announcement) × List Call :=
  if config.advertise.enabled then
    let registered := Mdns.Session.register config.advertise machine.identity machine.setting.responder
    (registered.result.map some, registered.calls)
  else (.ok none, [])

def listenOn (machine : Machine) (address : String) : Except Net.ListenError Unit := do
  let (host, port) ← Net.splitSocket address
  (machine.listen host port).mapError .refused

def dispatcher (config : Config) : Dispatcher Backend := ⟨Backend.registry, config.serialJson, .unused⟩

/-- Start everything behind the announcement: worker, browser, first scan, and the socket. -/
def run (config : Config) (machine : Machine) (session : Option Announcement) :
    Except StartError Daemon × List Call :=
  let setting := machine.setting
  let started := Service.start (.empty config.discovery.window) (dispatcher config) setting.responder
  let scanned := started.service.tell setting .scanAll
  let maintenance := Maintenance.start config.discovery.maintenanceInterval
  let maintained := scanned.service.cleanUps setting maintenance.due
  let calls := started.mdns ++ scanned.mdns ++ maintained.mdns
  match listenOn machine config.api.listen with
  | .error cause => (.error (.listen config.api.listen cause), calls)
  | .ok () => (.ok ⟨maintained.service, session, maintenance⟩, calls)

/-- Bring a daemon up under a configuration. -/
def boot (config : Config) (machine : Machine) : Except StartError Daemon × List Call :=
  let responder := machine.setting.responder
  match callAll responder (.start :: interfaceCalls config.discovery) with
  | (made, some (call, reason)) => (.error (callError call reason), made)
  | (made, none) =>
    match announce config machine with
    | (.error cause, calls) => (.error (.session cause), made ++ calls)
    | (.ok session, calls) =>
      let (daemon, more) := run config machine session
      (daemon, made ++ calls ++ more)

/-- Bring a daemon up under the configuration in a file. -/
def start (content : Except String (List UInt8)) (machine : Machine) : Except StartError Daemon × List Call :=
  match Config.load content with
  | .error cause => (.error (.config cause), [])
  | .ok config => boot config machine

/-- End a daemon: the browser, the maintenance and the router go first, then the announcement is withdrawn, the
worker stopped and the responder shut down. -/
def stop (daemon : Daemon) (setting : Setting) : Service Backend × List Call :=
  let service := [Holder.browser, .maintenance, .router].foldl Service.release daemon.service
  let withdrawn := match daemon.session with
    | none => []
    | some session => (Mdns.Session.unregister session setting.responder).calls
  let done := service.shutdown setting
  (done.service, withdrawn ++ done.mdns ++ [.shutdown])

end Daemon

end Discovery
