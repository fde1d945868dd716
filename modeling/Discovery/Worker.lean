import Discovery.Catalogue
import Discovery.Dispatcher
/-!
# The worker

One worker owns the catalogue and the dispatcher. Clients send it commands through a bounded channel, and it
executes them one at a time, oldest first. After every command it triggers the scans that are due; what a
backend sights during a scan is sent through the same channel and so is applied behind all that was waiting
before. A sighting that finds the channel full is lost.

The worker ends at a command to shut down, or when a deadline overflows; either way it closes the backend and
its end of the channel.
-/
namespace Discovery

inductive Command where
  | request (request : Request)
  | shutdown
  deriving DecidableEq

structure Surroundings where
  moment : Moment
  host : Host

structure Worker (δ : Type) where
  catalogue : Catalogue
  dispatcher : Dispatcher δ
  commands : Channel Command
  /-- The channel to the browser. -/
  requests : Channel Category
  running : Bool

/-- What the worker does while it executes commands: the answers to queries, the changes announced and the calls
on the backend, each in order. -/
structure Activity where
  answers : List (List Record)
  changes : List Change
  calls : List BackendCall
  logs : List Log

namespace Activity

def none : Activity := ⟨[], [], [], []⟩

instance : Append Activity where
  append first second := ⟨first.answers ++ second.answers, first.changes ++ second.changes,
    first.calls ++ second.calls, first.logs ++ second.logs⟩

end Activity

/-- A sighting that a backend reports, as a command. -/
def Command.ofSighting (sighting : Sighting) : Command := .request (.sighting sighting)

/-- A command that can have scans triggered. -/
def Command.scans : Command → Bool
  | .request (.sighting _) => false
  | _ => true

namespace Worker

variable {δ : Type} [Device δ]

/-- The number of commands that can wait. -/
def slots : Nat := 256

def start (catalogue : Catalogue) (dispatcher : Dispatcher δ) (requestSlots : Nat) : Worker δ :=
  { catalogue, dispatcher, commands := .empty slots, requests := .empty requestSlots, running := true }

def stop (worker : Worker δ) : Worker δ × Activity :=
  let (calls, effects) := worker.dispatcher.close
  ({ worker with commands := worker.commands.close, running := false }, ⟨[], [], calls, effects.logs⟩)

/-- Send the sightings of a scan to the worker itself. -/
def feed (worker : Worker δ) (sightings : List Sighting) : Worker δ × List Log :=
  let (commands, lost) := worker.commands.sendAll (sightings.map Command.ofSighting)
  ({ worker with commands }, lost.map fun error => .warn ("Dropped backend sighting: " ++ error.message))

def scan (worker : Worker δ) (host : Host) : List Category → Worker δ × Activity
  | [] => (worker, .none)
  | category :: rest =>
    let done := worker.dispatcher.trigger worker.requests host category
    let (fed, lost) := feed { worker with dispatcher := done.dispatcher, requests := done.requests }
      done.effects.sightings
    let (final, activity) := fed.scan host rest
    (final, ⟨[], [], done.calls, done.effects.logs ++ lost⟩ ++ activity)

/-- Execute one command, and trigger the scans that are due after it. -/
def execute (worker : Worker δ) (surroundings : Surroundings) : Command → Worker δ × Activity
  | .shutdown =>
    let (stopped, activity) := worker.stop
    (stopped, ⟨[], [], [], [.info "Aggregator thread shutting down"]⟩ ++ activity)
  | .request request =>
    match worker.catalogue.serve surroundings.moment request with
    | .error _ => worker.stop
    | .ok step =>
      let settled := step.catalogue.runPending
      let (scanned, activity) :=
        scan { worker with catalogue := settled.catalogue } surroundings.host (step.scans ++ settled.scans)
      (scanned, ⟨step.answer.toList, step.changes, [], step.logs⟩ ++ activity)

def next? (worker : Worker δ) (surroundings : Surroundings) : Option (Worker δ × Activity) :=
  match worker.commands.receive? with
  | none => none
  | some (command, commands) => some (execute { worker with commands } surroundings command)

/-! ## Running until nothing is waiting

Sightings lead to no scans of their own, and after a command no scan is due any more. So every command either
takes away from what can lead to scans or, if it leaves that as it is, from what is waiting.
-/

/-- What is left to do, as far as it can lead to scans. -/
def pressure (worker : Worker δ) : Nat :=
  worker.commands.waiting.countP Command.scans + worker.catalogue.pending.length

theorem countP_sendAll (channel : Channel Command) (sightings : List Sighting) :
    (channel.sendAll (sightings.map Command.ofSighting)).1.waiting.countP Command.scans =
      channel.waiting.countP Command.scans := by
  induction sightings generalizing channel with
  | nil => rfl
  | cons sighting rest ih =>
    rw [List.map_cons, Channel.sendAll]
    split
    next sent accepted =>
      rw [ih]
      simp only [Channel.send] at accepted
      split at accepted
      · cases accepted
      · split at accepted
        · cases accepted
        · cases accepted
          simp [Command.ofSighting, Command.scans]
    next => exact ih channel

theorem catalogue_scan (worker : Worker δ) (host : Host) (categories : List Category) :
    (worker.scan host categories).1.catalogue = worker.catalogue := by
  induction categories generalizing worker with
  | nil => rfl
  | cons category rest ih => simp [scan, ih, feed]

theorem countP_scan (worker : Worker δ) (host : Host) (categories : List Category) :
    (worker.scan host categories).1.commands.waiting.countP Command.scans =
      worker.commands.waiting.countP Command.scans := by
  induction categories generalizing worker with
  | nil => rfl
  | cons category rest ih => simp [scan, ih, feed, countP_sendAll]

theorem pressure_execute (worker : Worker δ) (surroundings : Surroundings) (command : Command) :
    (worker.execute surroundings command).1.pressure ≤ worker.pressure := by
  cases command with
  | shutdown => simp [execute, stop, pressure, Channel.close]
  | request request =>
    simp only [execute]
    split
    next => simp [stop, pressure, Channel.close]
    next step _ => simp [pressure, catalogue_scan, countP_scan, Catalogue.runPending]

/-- A sighting asks for no scan and triggers none. -/
theorem scans_of_sighting {catalogue : Catalogue} {reading : Reading} {sighting : Sighting} {step : Step}
    (handled : catalogue.handle reading (.sighting sighting) = .ok step) :
    step.scans = [] ∧ step.catalogue.pending = catalogue.pending := by
  simp only [Catalogue.handle, Catalogue.sight] at handled
  split at handled
  · cases handled; exact ⟨rfl, rfl⟩
  · next store _ =>
    cases merged : store.merge sighting reading.interfaces catalogue.window (reading.clock sighting.category) with
    | error => simp [merged, bind, Except.bind] at handled
    | ok merge =>
      simp only [merged, bind, Except.bind] at handled
      split at handled <;> cases handled <;> exact ⟨rfl, rfl⟩

/-- A command that cannot lead to scans either leaves less to do or leaves what was waiting behind it. -/
theorem execute_sighting (worker : Worker δ) (surroundings : Surroundings) (sighting : Sighting) :
    (worker.execute surroundings (.request (.sighting sighting))).1.pressure < worker.pressure ∨
      (worker.execute surroundings (.request (.sighting sighting))).1.commands.waiting.length ≤
        worker.commands.waiting.length := by
  simp only [execute]
  split
  next => exact .inr (by simp [stop, Channel.close])
  next step served =>
    obtain ⟨none, same⟩ := scans_of_sighting served
    cases pending : worker.catalogue.pending with
    | nil =>
      refine .inr ?_
      simp [Catalogue.runPending, none, same, pending, scan]
    | cons first rest =>
      refine .inl ?_
      simp [pressure, catalogue_scan, countP_scan, Catalogue.runPending, pending]

theorem decreasing_next {worker next : Worker δ} {surroundings : Surroundings} {activity : Activity}
    (taken : worker.next? surroundings = some (next, activity)) :
    Prod.Lex (· < ·) (· < ·) (next.pressure, next.commands.waiting.length)
      (worker.pressure, worker.commands.waiting.length) := by
  simp only [next?, Channel.receive?] at taken
  cases waiting : worker.commands.waiting with
  | nil => simp [waiting] at taken
  | cons command rest =>
    simp only [waiting, Option.some.injEq] at taken
    have result : next = (execute { worker with commands := { worker.commands with waiting := rest } }
        surroundings command).1 := by rw [taken]
    subst result
    generalize before : ({ worker with commands := { worker.commands with waiting := rest } } : Worker δ) = left
    have less := pressure_execute left surroundings command
    have count : worker.pressure = left.pressure + (if command.scans then 1 else 0) := by
      subst before
      simp only [pressure, waiting, List.countP_cons]
      omega
    have shorter : left.commands.waiting.length = rest.length := by subst before; rfl
    rw [Prod.lex_def]
    cases scans : command.scans with
    | true => exact .inl (by simp only [scans, if_true] at count; omega)
    | false =>
      simp only [scans, Bool.false_eq_true, if_false, Nat.add_zero] at count
      match command, scans with
      | .request (.sighting sighting), _ =>
        rcases execute_sighting left surroundings sighting with fewer | fits
        · exact .inl (by omega)
        · by_cases same : (left.execute surroundings (.request (.sighting sighting))).1.pressure = worker.pressure
          · exact .inr ⟨same, by simp only [List.length_cons]; omega⟩
          · exact .inl (by omega)

def drain (worker : Worker δ) (surroundings : Surroundings) : Worker δ × Activity :=
  match _ : worker.next? surroundings with
  | none => (worker, .none)
  | some (next, activity) =>
    let (final, more) := next.drain surroundings
    (final, activity ++ more)
  termination_by (worker.pressure, worker.commands.waiting.length)
  decreasing_by exact decreasing_next (by assumption)

end Worker

end Discovery
