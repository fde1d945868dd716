import Discovery.Maintenance
import Discovery.Proofs.Clients.Schedule
/-!
# A service at rest

Between its operations nothing is on its way in a service. A request that asks for no scan is then served at once and leaves
it so. Once the worker has ended, all that the service is told is refused.
-/
namespace Discovery

open Time (Instant)

variable {δ : Type} [Device δ]

/-! ## The worker -/

/-- The worker runs, and nothing is on its way. -/
structure Worker.AtRest (worker : Worker δ) : Prop where
  running : worker.running = true
  receiving : worker.commands.receiving = true
  capacity : worker.commands.capacity = slots
  unserved : worker.commands.waiting = []
  pending : worker.catalogue.pending = []
  complete : worker.catalogue.Complete

theorem Worker.next?_single {worker : Worker δ} (unserved : worker.commands.waiting = []) (surroundings : Surroundings)
    (command : Command) : { worker with commands := { worker.commands with waiting := [command] } }.next? surroundings =
      some (worker.execute surroundings command) := by
  have left : { worker with commands := { worker.commands with waiting := [] } } = worker := by rw [← unserved]
  simp only [next?, Channel.receive?, left]

/-- A command that comes alone and leads to no other is all that the worker executes. -/
theorem Worker.drain_single {worker : Worker δ} (unserved : worker.commands.waiting = []) (surroundings : Surroundings)
    {command : Command} (last : (worker.execute surroundings command).1.commands.waiting = []) :
    { worker with commands := { worker.commands with waiting := [command] } }.drain surroundings =
      worker.execute surroundings command := by
  have taken := next?_single unserved surroundings command
  rcases executed : worker.execute surroundings command with ⟨next, activity⟩
  rw [executed] at taken
  have last : next.commands.waiting = [] := by simpa only [executed] using last
  have done : next.next? surroundings = none := by
    simp only [next?, Channel.receive?, last]
  rw [drain_of_some taken, drain_of_none done, Activity.append_none]

theorem Worker.execute_quiet {worker : Worker δ} (idle : worker.catalogue.pending = []) {surroundings : Surroundings}
    {request : Request} {step : Step} (served : worker.catalogue.serve surroundings.moment request = .ok step)
    (silent : step.scans = []) (kept : step.catalogue.pending = worker.catalogue.pending) :
    worker.execute surroundings (.request request) =
      ({ worker with catalogue := step.catalogue }, ⟨step.answer.toList, step.changes, [], step.logs⟩) := by
  -- The worker takes what is pending out of the catalogue, and here nothing is.
  have none : step.catalogue.pending = [] := kept.trans idle
  have settled : { step.catalogue with pending := [] } = step.catalogue := by rw [← none]
  simp only [execute, served, silent, Catalogue.runPending, none, settled, List.flatMap_nil, List.append_nil, scan,
    Activity.append_none]

/-! ## Requests that ask for no scan -/

namespace Catalogue

variable {catalogue : Catalogue}

theorem all_cleanUpAll (complete : catalogue.Complete) (reading : Reading) {now : Instant}
    (still : ∀ category, reading.clock category = now) :
    (catalogue.perform (.request .cleanUpAll reading)).catalogue.all = catalogue.all.filter (!·.expiredAt now) := by
  rw [all, (pointwise_perform complete _).stores, all, List.filter_flatMap, List.flatMap_map]
  refine List.flatMap_congr fun store member => ?_
  have listed := Category.mem_concrete_iff.mpr (complete.concrete member)
  simp only [Store.after, Store.cleanUpIn, listed, if_true, Store.cleanUp, still]

/-- A sighting is handled unless it sets a deadline that is not representable. -/
theorem exists_sight (complete : catalogue.Complete) {reading : Reading} {incoming : Sighting}
    (fits : incoming.category ≠ .unknown → reading.interfaces.isLocal incoming.address = false → incoming.live = true →
      ((reading.clock incoming.category).add? catalogue.window).isSome = true) :
    ∃ step, catalogue.handle reading (.sighting incoming) = .ok step := by
  cases handled : catalogue.handle reading (.sighting incoming) with
  | ok step => exact ⟨step, rfl⟩
  | error overflow =>
    obtain ⟨⟨concrete, live, distant⟩, due⟩ := (sighting_eq_error_iff complete).mp handled
    exact absurd (fits concrete distant live) (by simp [due])

end Catalogue

/-! ## The service -/

namespace Service

variable {service : Service δ}

def Closed (service : Service δ) : Prop := service.worker.commands.receiving = false

omit [Device δ] in
theorem atRest_start (window : Time.Span) (dispatcher : Dispatcher δ) (responder : Mdns.Responder) :
    (start (.empty window) dispatcher responder).service.worker.AtRest :=
  ⟨rfl, rfl, rfl, rfl, rfl, Catalogue.complete_empty window⟩

omit [Device δ] in
/-- The queue is empty, so it accepts a command, and nothing is served before it. -/
theorem send_of_rest (rest : service.worker.AtRest) (command : Command) :
    service.worker.commands.send command = .ok { service.worker.commands with waiting := [command] } := by
  have free : ¬ Worker.slots ≤ 0 := by decide
  simp [Channel.send, rest.receiving, rest.capacity, rest.unserved, free]

/-- What is submitted to a service at rest is executed, if it leads to nothing else. -/
theorem submit_of_rest (rest : service.worker.AtRest) (setting : Setting) {command : Command}
    (last : (service.worker.execute setting.toSurroundings command).1.commands.waiting = []) :
    let done := service.submit setting command
    let worker := (service.worker.execute setting.toSurroundings command).1
    (∃ answer, done.result = .ok answer) ∧ done.service.joined = service.joined ∧
      done.service.worker = { worker with requests := { worker.requests with waiting := [] } } := by
  have drained := Worker.drain_single rest.unserved setting.toSurroundings last
  unfold submit
  rw [send_of_rest rest]
  refine ⟨⟨_, rfl⟩, rfl, ?_⟩
  simp only [settle, drained]

/-- A request that is told a service at rest and asks for no scan only acts on the catalogue. -/
theorem tell_of_rest (rest : service.worker.AtRest) {setting : Setting} {request : Request} {step : Step}
    (served : service.worker.catalogue.serve setting.moment request = .ok step)
    (quiet : step.scans = [] ∧ step.catalogue.pending = service.worker.catalogue.pending) :
    let done := service.tell setting request
    done.result = .ok () ∧ done.service.worker.AtRest ∧ done.service.joined = service.joined ∧
      done.service.worker.catalogue = (service.worker.catalogue.perform (.request request setting.moment.reading)).catalogue := by
  have executed := Worker.execute_quiet rest.pending served quiet.1 quiet.2
  have last : (service.worker.execute setting.toSurroundings (.request request)).1.commands.waiting = [] := by
    rw [executed]
    exact rest.unserved
  obtain ⟨⟨answer, result⟩, joined, worker⟩ := submit_of_rest rest setting last
  rw [executed] at worker
  have performed := Catalogue.perform_of_handle served
  have complete : step.catalogue.Complete := performed ▸ Catalogue.complete_perform rest.complete _
  rw [performed]
  refine ⟨by simp only [tell, result, Except.map], ?_, joined, ?_⟩
  · simp only [tell, worker]
    exact ⟨rest.running, rest.receiving, rest.capacity, rest.unserved, quiet.2.trans rest.pending, complete⟩
  · simp only [tell, worker]

/-- What such a request leads the catalogue to announce is sent to all subscribers. -/
theorem changes_of_rest (rest : service.worker.AtRest) {setting : Setting} {request : Request} {step : Step}
    (served : service.worker.catalogue.serve setting.moment request = .ok step)
    (quiet : step.scans = [] ∧ step.catalogue.pending = service.worker.catalogue.pending) :
    (service.tell setting request).service.changes = service.changes.sendAll
      (service.worker.catalogue.perform (.request request setting.moment.reading)).changes := by
  have executed := Worker.execute_quiet rest.pending served quiet.1 quiet.2
  have drained := Worker.drain_single rest.unserved setting.toSurroundings (by rw [executed]; exact rest.unserved)
  simp only [tell, submit, send_of_rest rest, settle, drained, executed, Catalogue.perform_of_handle served]

theorem cleanUp_of_rest (rest : service.worker.AtRest) (setting : Setting) :
    let done := service.tell setting .cleanUpAll
    done.result = .ok () ∧ done.service.worker.AtRest ∧ done.service.joined = service.joined ∧
      done.service.worker.catalogue.window = service.worker.catalogue.window ∧
      done.service.worker.catalogue.all = service.worker.catalogue.all.filter (!·.expiredAt setting.moment.now) := by
  have quiet := Catalogue.quiet_cleanUpAll service.worker.catalogue setting.moment.reading.clock
  have served : service.worker.catalogue.serve setting.moment .cleanUpAll =
      .ok (service.worker.catalogue.cleanUpAll setting.moment.reading.clock) := rfl
  obtain ⟨result, still, joined, same⟩ := tell_of_rest rest served quiet
  refine ⟨result, still, joined, ?_, ?_⟩
  · rw [same]
    exact (Catalogue.pointwise_perform rest.complete _).window
  · rw [same]
    exact Catalogue.all_cleanUpAll rest.complete setting.moment.reading fun _ => rfl

theorem cleanUps_of_rest (rest : service.worker.AtRest) (setting : Setting) (passes : Nat) :
    let done := service.cleanUps setting passes
    done.result = passes ∧ done.service.worker.AtRest ∧ done.service.joined = service.joined ∧
      done.service.worker.catalogue.window = service.worker.catalogue.window ∧
      done.service.worker.catalogue.all =
        if passes = 0 then service.worker.catalogue.all
        else service.worker.catalogue.all.filter (!·.expiredAt setting.moment.now) := by
  induction passes generalizing service with
  | zero => exact ⟨rfl, rest, rfl, rfl, rfl⟩
  | succ passes ih =>
    obtain ⟨told, still, joined, same, left⟩ := cleanUp_of_rest rest setting
    obtain ⟨made, resting, unjoined, window, all⟩ := ih still
    rw [left, List.filter_filter] at all
    simp only [cleanUps, told]
    refine ⟨by rw [made], resting, unjoined.trans joined, window.trans same, ?_⟩
    -- A pass at the same time finds nothing more.
    rw [all, if_neg (Nat.succ_ne_zero passes)]
    simp only [Bool.and_self, ite_self]

/-! ## The end -/

theorem submit_of_closed (closed : service.Closed) (setting : Setting) (command : Command) :
    service.submit setting command = service.stay (.error .closed) := by
  have refused : service.worker.commands.send command = .error .closed := by
    simp [Channel.send, show service.worker.commands.receiving = false from closed]
  simp only [submit, refused]

theorem cleanUps_of_closed (closed : service.Closed) (setting : Setting) (passes : Nat) :
    (service.cleanUps setting passes).result = 0 ∧ (service.cleanUps setting passes).service = service := by
  have told : service.tell setting .cleanUpAll = service.stay (.error .closed) := by
    simp only [tell, submit_of_closed closed]
    rfl
  induction passes with
  | zero => exact ⟨rfl, rfl⟩
  | succ passes ih =>
    simp only [cleanUps, told]
    exact ⟨ih.1, ih.2⟩

theorem closed_of_overflow (rest : service.worker.AtRest) {setting : Setting} {request : Request} {error : Overflow}
    (failed : service.worker.catalogue.serve setting.moment request = .error error) :
    (service.tell setting request).service.Closed := by
  have executed : (service.worker.execute setting.toSurroundings (.request request)) = service.worker.stop := by
    simp only [Worker.execute, failed]
  have last : (service.worker.execute setting.toSurroundings (.request request)).1.commands.waiting = [] := by
    rw [executed]
    rfl
  obtain ⟨_, _, worker⟩ := submit_of_rest rest setting last
  rw [executed] at worker
  simp only [Closed, tell, worker]
  rfl

/-- A service at rest is shut down by the first that asks for it, and its worker announces nothing more. -/
theorem shutdown_of_rest (rest : service.worker.AtRest) (unjoined : service.joined = false) (setting : Setting) :
    let done := service.shutdown setting
    done.result = .ok () ∧ done.service.joined = true ∧ done.service.worker.running = false ∧
      done.service.changes = service.changes := by
  have drained := Worker.drain_single rest.unserved setting.toSurroundings
    (rfl : (service.worker.execute setting.toSurroundings .shutdown).1.commands.waiting = [])
  have resting : ({ service with joined := true } : Service δ).worker.AtRest := rest
  simp only [shutdown, unjoined, Bool.false_eq_true, if_false, submit, send_of_rest resting, settle, drained]
  exact ⟨rfl, trivial, rfl, rfl⟩

theorem closed_of_shutdown (ready : service.worker.AtRest ∧ service.joined = false ∨ service.Closed) (setting : Setting) :
    (service.shutdown setting).service.Closed := by
  rcases ready with ⟨rest, unjoined⟩ | closed
  · let asked : Service δ := { service with joined := true }
    have resting : asked.worker.AtRest := rest
    obtain ⟨_, _, worker⟩ := submit_of_rest resting setting (rfl : (Worker.execute _ _ .shutdown).1.commands.waiting = [])
    have submitted : (service.shutdown setting).service = (asked.submit setting .shutdown).service := by
      simp only [shutdown, unjoined, Bool.false_eq_true, if_false, asked]
    rw [Closed, submitted, worker]
    rfl
  · unfold shutdown
    split
    · exact closed
    · have still : ({ service with joined := true } : Service δ).Closed := closed
      simp only [submit_of_closed still]
      exact closed

end Service

end Discovery
