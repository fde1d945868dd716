import Discovery.Proofs.Catalogue.Run
import Discovery.Worker
/-!
# Clients and the worker

The worker with its clients around it. A client makes one call after the other: its command waits until the queue accepts
it, and a query then waits for the answer. The worker takes the oldest command, serves it, and triggers the scans that are
due one at a time; what a backend sights goes back into the queue, between the commands that clients put there meanwhile.
Everything that one of them does in one go is an event, and the events of a run come in any order in which they can.

The queue numbers the commands that it accepts, from zero on.
-/
namespace Discovery

/-- The request is answered. -/
def Request.isQuery : Request → Bool
  | services _ | sessions | everything => true
  | sighting _ | scan _ | scanAll | cleanUpAll => false

namespace Clients

/-- Who sends a command: a client, or the scan that was triggered after the command of a ticket. -/
inductive Origin (ι : Type) where
  | client (client : ι)
  | scan (cause : Nat)

structure Envelope (ι : Type) where
  ticket : Nat
  origin : Origin ι
  command : Command

/-- The command, if it is of this client. -/
def Envelope.of? {ι : Type} [DecidableEq ι] (envelope : Envelope ι) (client : ι) : Option Command :=
  match envelope.origin with
  | .client sender => if sender = client then some envelope.command else none
  | .scan _ => none

/-- How far the call of a client has got. -/
inductive Calling where
  | idle
  | sending (command : Command)
  | sent (ticket : Nat) (command : Command)

/-- The commands that have not been accepted yet, one at most. -/
def Calling.unsent : Calling → List Command
  | sending command => [command]
  | idle | sent .. => []

inductive Returned where
  | done
  | records (records : List Record)
  | failed

/-- What the worker is at. It leaves its loop at a command to shut down, or if it fails at a deadline. -/
inductive Phase (ι : Type) where
  | receiving
  | executing (envelope : Envelope ι)
  /-- The scan under way has `found` more to report, and others are due after it. -/
  | scanning (cause : Nat) (found : List Sighting) (due : List Category)
  | leaving (failed : Bool)
  /-- The backend has been closed, but not the queue. -/
  | closed (failed : Bool)
  | ended (failed : Bool)

namespace Phase

variable {ι : Type}

/-- The worker has not left its loop. -/
def isRunning : Phase ι → Bool
  | receiving | executing _ | scanning .. => true
  | leaving _ | closed _ | ended _ => false

/-- The command that is being executed. -/
def inHand : Phase ι → List (Envelope ι)
  | executing envelope => [envelope]
  | _ => []

/-- The scans that are still to be triggered. -/
def due : Phase ι → List Category
  | scanning _ _ due => due
  | _ => []

end Phase

structure State (ι δ : Type) where
  catalogue : Catalogue
  dispatcher : Dispatcher δ
  commands : Channel (Envelope ι)
  /-- The channel to the browser. -/
  requests : Channel Category
  phase : Phase ι
  /-- The number of commands that have been accepted. -/
  tickets : Nat
  /-- The answers that have been given, by the ticket of the query. -/
  replies : Nat → Option (List Record)
  calls : ι → Calling
  /-- A shutdown has been asked for. -/
  joined : Bool

/-- A request as it was served. -/
structure Execution (ι : Type) where
  envelope : Envelope ι
  request : Request
  reading : Reading
  step : Step

inductive Event (ι : Type) where
  | call (client : ι) (command : Command)
  /-- A shutdown that finds another one asked for, and returns at once. -/
  | pass (client : ι)
  | accept (envelope : Envelope ι)
  /-- A call returns; it has no ticket if its command has not been accepted. -/
  | returned (client : ι) (ticket : Option Nat) (result : Returned)
  | take (envelope : Envelope ι)
  | serve (execution : Execution ι)
  | overflow (envelope : Envelope ι) (reading : Reading)
  | stop (envelope : Envelope ι)
  | trigger (cause : Nat) (category : Category) (calls : List BackendCall)
  /-- A sighting of a scan finds no slot in the queue. -/
  | lose (cause : Nat) (sighting : Sighting)
  | rest
  | close (calls : List BackendCall)
  | hangUp
  /-- The browser takes a request for a scan. -/
  | browse (category : Category)
  | browserLeaves

namespace State

variable {ι δ : Type}

def start (catalogue : Catalogue) (dispatcher : Dispatcher δ) (requestSlots : Nat) : State ι δ :=
  { catalogue, dispatcher, commands := .empty Worker.slots, requests := .empty requestSlots, phase := .receiving
    tickets := 0, replies := fun _ => none, calls := fun _ => .idle, joined := false }

def withCall [DecidableEq ι] (state : State ι δ) (client : ι) (calling : Calling) : State ι δ :=
  { state with calls := fun other => if other = client then calling else state.calls other }

@[simp] theorem calls_withCall [DecidableEq ι] (state : State ι δ) (client : ι) (calling : Calling) (other : ι) :
    (state.withCall client calling).calls other = if other = client then calling else state.calls other := rfl

/-- The queue accepts a command under the next ticket. -/
def accepting (state : State ι δ) (commands : Channel (Envelope ι)) : State ι δ :=
  { state with commands, tickets := state.tickets + 1 }

/-- A request has been served: it is answered, and the scans that are due come next. -/
def serving (state : State ι δ) (ticket : Nat) (step : Step) : State ι δ :=
  let settled := step.catalogue.runPending
  { state with
    catalogue := settled.catalogue
    replies := fun other => if other = ticket then step.answer else state.replies other
    phase := .scanning ticket [] (step.scans ++ settled.scans) }

/-- No slot of the queue is free, or those that are have been promised to clients that are about to use them. -/
def Crowded (state : State ι δ) (envelope : Envelope ι) : Prop :=
  (∃ error, state.commands.send envelope = .error error) ∨ ∃ client command, state.calls client = .sending command

end State

/-- What a call can return at present. Only a query waits for its answer, and only a shutdown for the end. -/
inductive Returns {ι δ : Type} (state : State ι δ) (ticket : Nat) : Command → Returned → Prop
  | told {request : Request} : request.isQuery = false → Returns state ticket (.request request) .done
  | answered {request : Request} {records : List Record} : request.isQuery = true →
      state.replies ticket = some records → Returns state ticket (.request request) (.records records)
  | unanswered {request : Request} {failed : Bool} : request.isQuery = true → state.phase = .ended failed →
      state.replies ticket = none → Returns state ticket (.request request) .failed
  | joined : state.phase = .ended false → Returns state ticket .shutdown .done
  | broken : state.phase = .ended true → Returns state ticket .shutdown .failed

section
variable {ι δ : Type} [DecidableEq ι] [Device δ]

inductive Happens : State ι δ → Event ι → State ι δ → Prop
  -- Clients
  | call {state : State ι δ} {client : ι} {request : Request} : state.calls client = .idle →
      Happens state (.call client (.request request)) (state.withCall client (.sending (.request request)))
  | shutdown {state : State ι δ} {client : ι} : state.calls client = .idle → state.joined = false →
      Happens state (.call client .shutdown) { state.withCall client (.sending .shutdown) with joined := true }
  | pass {state : State ι δ} {client : ι} : state.calls client = .idle → state.joined = true →
      Happens state (.pass client) state
  | enter {state : State ι δ} {client : ι} {command : Command} {commands : Channel (Envelope ι)} :
      state.calls client = .sending command →
      state.commands.send ⟨state.tickets, .client client, command⟩ = .ok commands →
      Happens state (.accept ⟨state.tickets, .client client, command⟩)
        ((state.withCall client (.sent state.tickets command)).accepting commands)
  | refuse {state : State ι δ} {client : ι} {command : Command} : state.calls client = .sending command →
      state.commands.receiving = false → Happens state (.returned client none .failed) (state.withCall client .idle)
  | finish {state : State ι δ} {client : ι} {ticket : Nat} {command : Command} {result : Returned} :
      state.calls client = .sent ticket command → Returns state ticket command result →
      Happens state (.returned client (some ticket) result) (state.withCall client .idle)
  -- The worker
  | take {state : State ι δ} {envelope : Envelope ι} {commands : Channel (Envelope ι)} : state.phase = .receiving →
      state.commands.receive? = some (envelope, commands) →
      Happens state (.take envelope) { state with commands, phase := .executing envelope }
  | serve {state : State ι δ} {envelope : Envelope ι} {request : Request} {reading : Reading} {step : Step} :
      state.phase = .executing envelope → envelope.command = .request request →
      state.catalogue.handle reading request = .ok step →
      Happens state (.serve ⟨envelope, request, reading, step⟩) (state.serving envelope.ticket step)
  | overflow {state : State ι δ} {envelope : Envelope ι} {request : Request} {reading : Reading} {error : Overflow} :
      state.phase = .executing envelope → envelope.command = .request request →
      state.catalogue.handle reading request = .error error →
      Happens state (.overflow envelope reading) { state with phase := .leaving true }
  | stop {state : State ι δ} {envelope : Envelope ι} : state.phase = .executing envelope →
      envelope.command = .shutdown → Happens state (.stop envelope) { state with phase := .leaving false }
  | trigger {state : State ι δ} {cause : Nat} {category : Category} {due : List Category} {host : Host}
      {done : Dispatch δ} : state.phase = .scanning cause [] (category :: due) →
      state.dispatcher.trigger state.requests host category = done →
      Happens state (.trigger cause category done.calls)
        { state with
          dispatcher := done.dispatcher, requests := done.requests
          phase := .scanning cause done.effects.sightings due }
  | emit {state : State ι δ} {cause : Nat} {sighting : Sighting} {found : List Sighting} {due : List Category}
      {commands : Channel (Envelope ι)} : state.phase = .scanning cause (sighting :: found) due →
      state.commands.send ⟨state.tickets, .scan cause, .ofSighting sighting⟩ = .ok commands →
      Happens state (.accept ⟨state.tickets, .scan cause, .ofSighting sighting⟩)
        { state.accepting commands with phase := .scanning cause found due }
  | lose {state : State ι δ} {cause : Nat} {sighting : Sighting} {found : List Sighting} {due : List Category} :
      state.phase = .scanning cause (sighting :: found) due →
      state.Crowded ⟨state.tickets, .scan cause, .ofSighting sighting⟩ →
      Happens state (.lose cause sighting) { state with phase := .scanning cause found due }
  | rest {state : State ι δ} {cause : Nat} : state.phase = .scanning cause [] [] →
      Happens state .rest { state with phase := .receiving }
  | close {state : State ι δ} {failed : Bool} : state.phase = .leaving failed →
      Happens state (.close state.dispatcher.close.1) { state with phase := .closed failed }
  | hangUp {state : State ι δ} {failed : Bool} : state.phase = .closed failed →
      Happens state .hangUp { state with commands := state.commands.close, phase := .ended failed }
  -- The browser
  | browse {state : State ι δ} {category : Category} {requests : Channel Category} :
      state.requests.receive? = some (category, requests) → Happens state (.browse category) { state with requests }
  | browserLeaves {state : State ι δ} : Happens state .browserLeaves { state with requests := state.requests.close }

/-- A state that is reached, with the events on the way to it. -/
inductive Runs (start : State ι δ) : List (Event ι) → State ι δ → Prop
  | start : Runs start [] start
  | next {trace : List (Event ι)} {state next : State ι δ} {event : Event ι} : Runs start trace state →
      Happens state event next → Runs start (trace ++ [event]) next

end

/-! ## What a trace tells -/

section
variable {ι : Type}

/-- The commands that the queue has accepted, in order. -/
def accepted (trace : List (Event ι)) : List (Envelope ι) :=
  trace.filterMap fun
    | .accept envelope => some envelope
    | _ => none

/-- The requests that have been served, in order. -/
def executions (trace : List (Event ι)) : List (Execution ι) :=
  trace.filterMap fun
    | .serve execution => some execution
    | _ => none

/-- The changes that have been announced, in order. -/
def announced (trace : List (Event ι)) : List Change := (executions trace).flatMap (·.step.changes)

/-- The scans that have been triggered, in order. -/
def triggered (trace : List (Event ι)) : List Category :=
  trace.filterMap fun
    | .trigger _ category _ => some category
    | _ => none

/-- What was performed on the catalogue: every request, and after it the triggering of scans. -/
def turns (executions : List (Execution ι)) : List Operation :=
  executions.flatMap fun execution => [.request execution.request execution.reading, .runPending]

/-- The commands of a client's calls, in the order of the calls. -/
def issued [DecidableEq ι] (client : ι) (trace : List (Event ι)) : List Command :=
  trace.filterMap fun
    | .call caller command => if caller = client then some command else none
    | _ => none

end

end Clients

end Discovery
