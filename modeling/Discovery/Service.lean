import Discovery.Broadcast
import Discovery.Http.EventFrame
import Discovery.Http.Routes
import Discovery.Mdns.Browser
import Discovery.Worker
/-!
# The service

The worker, the browser, the channel of changes and the routes, wired together. Clients hold handles, by which they
send commands to the worker and subscribe to changes. An operation of the service is complete when no command and
no scan request is waiting any more; restarting a browse sends no command, so the worker is drained first and the
browser then serves the scan requests.

Everyone who holds a handle could still announce a change as far as a subscriber can tell. A stream of events
therefore ends only when the worker and every holder of a handle are gone.
-/
namespace Discovery

/-- The surroundings of the service, the responder included. -/
structure Setting extends Surroundings where
  responder : Mdns.Responder

inductive Holder where
  | main
  | browser
  | maintenance
  | router
  deriving DecidableEq, Repr

structure Service (δ : Type) where
  worker : Worker δ
  browser : Mdns.Browser
  changes : Broadcast Change
  holders : List Holder
  /-- The channels that the responder has closed. -/
  hungUp : List Mdns.Listener
  joined : Bool

structure Turn (δ α : Type) where
  service : Service δ
  result : α
  mdns : List Mdns.Call
  activity : Activity

/-- What becomes of something that the responder sends on a channel. -/
inductive Delivery where
  | delivered
  /-- The responder has closed the channel, or nobody listens to it any more. -/
  | closed
  /-- There is no such channel. -/
  | absent
  deriving DecidableEq, Repr

/-- A client's position in the channel of changes. -/
structure EventStream where
  position : Nat
  deriving DecidableEq, Repr

namespace Service

variable {δ : Type} [Device δ]

/-- The number of changes that are kept for subscribers. -/
def changeSlots : Nat := 64

/-- The number of scan requests that can wait for the browser. -/
def requestSlots : Nat := 16

/-- Start the worker, and a browse for every announced family. -/
def start (catalogue : Catalogue) (dispatcher : Dispatcher δ) (responder : Mdns.Responder) : Turn δ Unit :=
  let browsing := Mdns.Browser.empty.startAll responder
  { service := {
      worker := .start catalogue dispatcher requestSlots
      browser := browsing.browser
      changes := .empty changeSlots
      holders := [.main, .browser, .maintenance, .router]
      hungUp := []
      joined := false }
    result := ()
    mdns := browsing.calls
    activity := ⟨[], [], [], browsing.logs⟩ }

/-- Let the worker execute all commands and the browser serve all scan requests. -/
def settle (service : Service δ) (setting : Setting) : Turn δ Unit :=
  let (worker, activity) := service.worker.drain setting.toSurroundings
  let browsing := Mdns.Browser.forEach (·.restart setting.responder ·) service.browser worker.requests.waiting
  { service := { service with
      worker := { worker with requests := { worker.requests with waiting := [] } }
      browser := browsing.browser
      changes := service.changes.sendAll activity.changes }
    result := ()
    mdns := browsing.calls
    activity := activity ++ ⟨[], [], [], browsing.logs⟩ }

def stay {α : Type} (service : Service δ) (result : α) : Turn δ α := ⟨service, result, [], .none⟩

/-- Send a command and wait until nothing more happens. The result is the answer, if the command has one. -/
def submit (service : Service δ) (setting : Setting) (command : Command) :
    Turn δ (Except SendError (Option (List Record))) :=
  match service.worker.commands.send command with
  | .error error => service.stay (.error error)
  | .ok commands =>
    let done := settle { service with worker := { service.worker with commands } } setting
    { done with result := .ok done.activity.answers.head? }

def tell (service : Service δ) (setting : Setting) (request : Request) : Turn δ (Except SendError Unit) :=
  let done := service.submit setting (.request request)
  { done with result := done.result.map fun _ => () }

/-- Send a query. If the worker ends before it answers, the channel for the answer is closed. -/
def ask (service : Service δ) (setting : Setting) (request : Request) :
    Turn δ (Except SendError (List Record)) :=
  let done := service.submit setting (.request request)
  { done with
    result := match done.result with
      | .ok (some records) => .ok records
      | .ok none => .error .closed
      | .error error => .error error }

/-- Stop the worker and wait for its end. Whoever asks first does it; for all others there is nothing to do. -/
def shutdown (service : Service δ) (setting : Setting) : Turn δ (Except SendError Unit) :=
  if service.joined then service.stay (.ok ())
  else
    let done := submit { service with joined := true } setting .shutdown
    { done with result := done.result.map fun _ => () }

/-- The published fingerprint. It stays what it was when the worker ended. -/
def fingerprint (service : Service δ) : String := service.worker.catalogue.fingerprint

/-! ## What the responder reports -/

/-- The channel of a category's browse, counted from zero; the newest if none is named. -/
def channel? (service : Service δ) (category : Category) (browse : Option Nat) : Option Mdns.Listener :=
  let browses := service.browser.generation category
  let generation := match browse with
    | some index => index + 1
    | none => browses
  if 1 ≤ generation ∧ generation ≤ browses then some ⟨category, generation⟩ else none

/-- Something arrives on a channel. What it amounts to is reported to the worker. -/
def receive (service : Service δ) (setting : Setting) (listener : Mdns.Listener) (arrival : Mdns.Arrival) :
    Turn δ Unit :=
  let (browser, sighting) := service.browser.receive listener arrival
  let service := { service with browser }
  match sighting with
  | none => service.stay ()
  | some sighting =>
    let done := service.submit setting (.request (.sighting sighting))
    { done with result := () }

/-- The responder closes a channel, whether or not anybody listens to it. -/
def hangUp (service : Service δ) (setting : Setting) (listener : Mdns.Listener) : Turn δ Delivery :=
  let done := service.receive setting listener .disconnected
  { done with
    service := { done.service with hungUp := listener :: done.service.hungUp }
    result := .delivered }

/-- The responder sends an event on the channel of a browse, or closes the channel. -/
def deliver (service : Service δ) (setting : Setting) (category : Category) (browse : Option Nat)
    (arrival : Mdns.Arrival) : Turn δ Delivery :=
  match service.channel? category browse with
  | none => service.stay .absent
  | some listener =>
    if listener ∈ service.hungUp then service.stay .closed
    else if arrival = .disconnected then service.hangUp setting listener
    else if listener ∈ service.browser.listeners then
      { service.receive setting listener arrival with result := .delivered }
    else service.stay .closed

/-! ## Event streams -/

/-- A stream of the changes from now on. -/
def openStream (service : Service δ) : EventStream := ⟨service.changes.subscribe⟩

/-- What a subscriber receives from its position on, and its position after it. -/
def receptions (service : Service δ) (position : Nat) : List (Reception Change) × Nat :=
  (service.changes.receive position, service.changes.sent)

/-- The changes that a stream has to send. Lost changes are passed over. -/
def pendingEvents (service : Service δ) (stream : EventStream) : List Change :=
  (service.changes.receive stream.position).filterMap fun
    | .message change => some change
    | .lagged _ => none

def readStream (service : Service δ) (stream : EventStream) : List String × EventStream :=
  ((service.pendingEvents stream).map Http.eventText, ⟨service.changes.sent⟩)

/-- The number of those who can still announce a change. -/
def senders (service : Service δ) : Nat := (if service.worker.running then 1 else 0) + service.holders.length

/-- A stream is at its end: it has nothing to send, and nobody is left who could announce a change. -/
def streamEnded (service : Service δ) (stream : EventStream) : Bool :=
  (service.pendingEvents stream).isEmpty && service.senders == 0

def release (service : Service δ) (holder : Holder) : Service δ :=
  { service with holders := service.holders.filter (· ≠ holder) }

/-! ## Requests over HTTP -/

def recordsResponse : Except SendError (List Record) → Http.Response
  | .ok records => .ofJson (Record.listToJson records)
  | .error _ => .internalError

def scanResponse : Except SendError Unit → Http.Response
  | .ok () => .accepted
  | .error _ => .internalError

def perform (service : Service δ) (setting : Setting) : Http.Action → Turn δ Http.Response
  | .services category =>
    let request := match category with
      | some category => .services category
      | none => .everything
    let done := service.ask setting request
    { done with result := recordsResponse done.result }
  | .sessions =>
    let done := service.ask setting .sessions
    { done with result := recordsResponse done.result }
  | .scan none =>
    let done := service.tell setting .scanAll
    { done with result := scanResponse done.result }
  | .scan (some category) =>
    match category.scanTarget with
    | none => service.stay .badRequest
    | some target =>
      let done := service.tell setting (.scan target)
      { done with result := scanResponse done.result }
  | .fingerprint => service.stay (.ofText service.fingerprint)
  | .events => service.stay .events

def respond (service : Service δ) (setting : Setting) (request : Http.Request) : Turn δ Http.Response :=
  let done := match Http.route request with
    | .error refusal => service.stay refusal
    | .ok action => service.perform setting action
  { done with result := Http.trim request done.result }

end Service

end Discovery
