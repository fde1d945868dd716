import Discovery.Proofs.Clients.Schedule
/-!
# How the worker ends

A worker that does not fail leaves its loop only at a command to shut down. It has then served all commands before that one
and will serve none of those behind it, whatever the clients do meanwhile. It closes the backend and after that the queue,
and nothing that is called later gets in any more. With a command to shut down in the queue, everything that the worker does
takes it closer to its end.
-/
namespace Discovery.Clients

open Time (Span)

variable {ι δ : Type} [DecidableEq ι] [Device δ]
variable {state past next : State ι δ} {event : Event ι} {trace later : List (Event ι)}
variable {catalogue : Catalogue} {dispatcher : Dispatcher δ} {requestSlots : Nat}

theorem Runs.split {start : State ι δ} (runs : Runs start (trace ++ event :: later) next) :
    ∃ past following, Runs start trace past ∧ Happens past event following ∧ Runs following later next := by
  induction later using List.reverseRecOn generalizing next with
  | nil =>
    obtain ⟨past, runs, happens⟩ := runs_concat.mp runs
    exact ⟨past, next, runs, happens, .start⟩
  | append_singleton later last ih =>
    -- The run ends with another event, and goes on to it from where it has come before.
    have parts : trace ++ event :: (later ++ [last]) = (trace ++ event :: later) ++ [last] := by simp
    rw [parts, runs_concat] at runs
    obtain ⟨between, runs, ends⟩ := runs
    obtain ⟨past, following, earlier, happens, on⟩ := ih runs
    exact ⟨past, following, earlier, happens, on.next ends⟩

/-- Clients and the browser leave the worker to itself. They can only put something into its queue. -/
theorem Happens.worker_of_foreign (happens : Happens state event next) (foreign : event.isOwn = false) :
    next.phase = state.phase ∧ next.catalogue = state.catalogue ∧ next.dispatcher = state.dispatcher ∧
      (next.commands = state.commands ∨ ∃ envelope, state.commands.send envelope = .ok next.commands) := by
  cases happens with
  | enter _ sent => exact ⟨rfl, rfl, rfl, .inr ⟨_, sent⟩⟩
  | call | shutdown | pass | refuse | finish | browse | browserLeaves => exact ⟨rfl, rfl, rfl, .inl rfl⟩
  | _ => cases foreign

omit [DecidableEq ι] [Device δ] in
theorem receiving_of_sent {α : Type} {channel sent : Channel α} {message : α} (accepted : channel.send message = .ok sent) :
    channel.receiving = true :=
  (Channel.send_eq_ok_iff.mp accepted).1.1

/-! ## Leaving the loop -/

theorem request_of_executions (runs : Runs (.start catalogue dispatcher requestSlots) trace state) {envelope : Envelope ι}
    (served : envelope ∈ (executions trace).map (·.envelope)) : envelope.command ≠ .shutdown := by
  obtain ⟨execution, member, rfl⟩ := List.mem_map.mp served
  obtain ⟨earlier, behind, split⟩ := List.append_of_mem member
  obtain ⟨request, _⟩ := (serves_runs runs).steps earlier execution behind split
  rw [request]
  exact Command.noConfusion

theorem closed_of_closed (runs : Runs (.start catalogue dispatcher requestSlots) trace state) {failed : Bool}
    (closed : state.phase = .closed failed) : .close state.dispatcher.close.1 ∈ trace := by
  induction runs with
  | start => cases closed
  | @next trace state next event runs happens ih =>
    cases own : event.isOwn with
    | false =>
      obtain ⟨phase, _, dispatcher, _⟩ := happens.worker_of_foreign own
      rw [phase] at closed
      rw [dispatcher]
      exact List.mem_append_left _ (ih closed)
    | true =>
      cases happens with
      | close => exact List.mem_append_right _ (List.mem_singleton_self _)
      | call | shutdown | pass | enter | refuse | finish | browse | browserLeaves => cases own
      | _ => cases closed

theorem closed_of_ended (runs : Runs (.start catalogue dispatcher requestSlots) trace state) {failed : Bool}
    (ended : state.phase = .ended failed) : .close state.dispatcher.close.1 ∈ trace ∧ .hangUp ∈ trace ∧
      state.commands.receiving = false ∧ state.commands.waiting = [] := by
  induction runs with
  | start => cases ended
  | @next trace state next event runs happens ih =>
    cases own : event.isOwn with
    | false =>
      obtain ⟨phase, _, dispatcher, commands⟩ := happens.worker_of_foreign own
      obtain ⟨close, hangUp, closed, nothing⟩ := ih (phase ▸ ended)
      -- Others could only have put something into the queue, but it is closed.
      have same : next.commands = state.commands := by
        rcases commands with same | ⟨_, sent⟩
        · exact same
        · rw [receiving_of_sent sent] at closed
          cases closed
      rw [dispatcher, same]
      exact ⟨List.mem_append_left _ close, List.mem_append_left _ hangUp, closed, nothing⟩
    | true =>
      cases happens with
      | hangUp phase =>
        have close := closed_of_closed runs phase
        exact ⟨List.mem_append_left _ close, List.mem_append_right _ (List.mem_singleton_self _), rfl, rfl⟩
      | call | shutdown | pass | enter | refuse | finish | browse | browserLeaves => cases own
      | _ => cases ended

/-- An ended worker does nothing any more, and its queue accepts nothing. -/
structure Inert (past : State ι δ) (later : List (Event ι)) (state : State ι δ) : Prop where
  phase : state.phase = past.phase
  catalogue : state.catalogue = past.catalogue
  dispatcher : state.dispatcher = past.dispatcher
  closed : state.commands.receiving = false
  joined : past.joined = true → state.joined = true
  foreign : ∀ event ∈ later, event.isOwn = false
  unaccepted : accepted later = []

theorem Happens.inert {failed : Bool} (happens : Happens past event next) (ended : past.phase = .ended failed)
    (closed : past.commands.receiving = false) : Inert past [event] next := by
  cases happens with
  | enter _ sent | emit _ sent =>
    rw [receiving_of_sent sent] at closed
    cases closed
  | call | pass | refuse | finish | browse | browserLeaves =>
    exact ⟨rfl, rfl, rfl, closed, id, by simp [Event.isOwn], rfl⟩
  | shutdown => exact ⟨rfl, rfl, rfl, closed, fun _ => rfl, by simp [Event.isOwn], rfl⟩
  | take phase | serve phase | overflow phase | stop phase | trigger phase | lose phase | rest phase | close phase
  | hangUp phase =>
    rw [ended] at phase
    cases phase

theorem Runs.inert {failed : Bool} (runs : Runs past later next) (ended : past.phase = .ended failed)
    (closed : past.commands.receiving = false) : Inert past later next := by
  induction runs with
  | start => exact ⟨rfl, rfl, rfl, closed, id, by simp, rfl⟩
  | next _ happens ih =>
    have last := happens.inert (ih.phase.trans ended) ih.closed
    refine ⟨last.phase.trans ih.phase, last.catalogue.trans ih.catalogue, last.dispatcher.trans ih.dispatcher, last.closed,
      fun asked => last.joined (ih.joined asked), ?_, ?_⟩
    · intro event member
      rcases List.mem_append.mp member with earlier | latest
      · exact ih.foreign event earlier
      · exact last.foreign event latest
    · rw [accepted_append, ih.unaccepted, last.unaccepted, List.nil_append]

/-! ## Coming to the end -/

section
variable {ι : Type}

namespace Phase

/-- How far the worker is from its end, as long as no command is before the one to shut down. -/
def rank : Phase ι → Nat
  | scanning .. => 5
  | receiving => 4
  | executing _ => 3
  | leaving _ => 2
  | closed _ => 1
  | ended _ => 0

def found : Phase ι → List Sighting
  | scanning _ found _ => found
  | _ => []

end Phase

end

/-- The order on what remains: one request less outweighs all scans. -/
abbrev Nearer : Nat × Nat × Nat × Nat → Nat × Nat × Nat × Nat → Prop :=
  Prod.Lex (· < ·) (Prod.Lex (· < ·) (Prod.Lex (· < ·) (· < ·)))

/-- A command to shut down is in the queue, or the worker has found it there. -/
def State.Closing (state : State ι δ) : Prop :=
  state.phase.isRunning = true →
    ∃ envelope ∈ state.phase.inHand ++ state.commands.waiting, envelope.command = .shutdown

omit [DecidableEq ι] [Device δ] in
theorem State.Closing.busy (closing : state.Closing) (receiving : state.phase = .receiving) :
    state.commands.waiting ≠ [] := by
  intro nothing
  obtain ⟨envelope, member, _⟩ := closing (by rw [receiving]; rfl)
  simp [receiving, Phase.inHand, nothing] at member

/-- The scan is triggered on this host. -/
def State.triggering (state : State ι δ) (host : Host) (cause : Nat) (category : Category) (due : List Category) :
    State ι δ :=
  let done := state.dispatcher.trigger state.requests host category
  { state with
    dispatcher := done.dispatcher, requests := done.requests
    phase := .scanning cause done.effects.sightings due }

/-- Nobody has called anything, no deadline has overflowed, and a scan has found the host as it is here. -/
structure Undisturbed (host : Host) (state : State ι δ) (event : Event ι) (next : State ι δ) : Prop where
  happens : Happens state event next
  uncalled : ∀ client command, event ≠ .call client command
  fits : ∀ envelope reading, event ≠ .overflow envelope reading
  onHost : ∀ cause category calls, event = .trigger cause category calls →
    ∃ due, next = state.triggering host cause category due

/-- Until the worker has ended or waits for a command there is something that it can do by itself, and it does not fail if the
clock allows for a deadline. -/
theorem exists_own (busy : state.phase = .receiving → state.commands.waiting ≠ [])
    (unended : ∀ failed, state.phase ≠ .ended failed) (host : Host) {moment : Moment}
    (lasting : (moment.now.add? state.catalogue.window).isSome = true) :
    ∃ event next, Undisturbed host state event next ∧ event.isOwn = true ∧
      ∀ execution ∈ executions [event], execution.reading = moment.reading := by
  cases phase : state.phase with
  | receiving =>
    cases waiting : state.commands.waiting with
    | nil => exact absurd waiting (busy phase)
    | cons first rest =>
      have received : state.commands.receive? = some (first, { state.commands with waiting := rest }) := by
        simp only [Channel.receive?, waiting]
      exact ⟨_, _, ⟨.take phase received, by simp, by simp, by simp⟩, rfl, by simp [executions]⟩
  | executing envelope =>
    cases command : envelope.command with
    | shutdown => exact ⟨_, _, ⟨.stop phase command, by simp, by simp, by simp⟩, rfl, by simp [executions]⟩
    | request request =>
      obtain ⟨step, handled⟩ := Catalogue.exists_handle state.catalogue moment.reading request fun _ => lasting
      exact ⟨_, _, ⟨.serve phase command handled, by simp, by simp, by simp⟩, rfl, by simp [executions]⟩
  | scanning cause found due =>
    cases found with
    | cons sighting found =>
      cases sent : state.commands.send ⟨state.tickets, .scan cause, .ofSighting sighting⟩ with
      | ok commands => exact ⟨_, _, ⟨.emit phase sent, by simp, by simp, by simp⟩, rfl, by simp [executions]⟩
      | error error =>
        exact ⟨_, _, ⟨.lose phase (.inl ⟨error, sent⟩), by simp, by simp, by simp⟩, rfl, by simp [executions]⟩
    | nil =>
      cases due with
      | cons category due =>
        have happens : Happens state _ (state.triggering host cause category due) := .trigger phase rfl
        refine ⟨_, _, ⟨happens, by simp, by simp, ?_⟩, rfl, by simp [executions]⟩
        rintro cause category calls ⟨⟩
        exact ⟨due, rfl⟩
      | nil => exact ⟨_, _, ⟨.rest phase, by simp, by simp, by simp⟩, rfl, by simp [executions]⟩
  | leaving failed => exact ⟨_, _, ⟨.close phase, by simp, by simp, by simp⟩, rfl, by simp [executions]⟩
  | closed failed => exact ⟨_, _, ⟨.hangUp phase, by simp, by simp, by simp⟩, rfl, by simp [executions]⟩
  | ended failed => exact absurd phase (unended failed)

/-- The window is the one that the catalogue was started with, and the fingerprint is that of what it holds. -/
theorem catalogue_runs {window : Span} (runs : Runs (.start (.empty window) dispatcher requestSlots) trace state) :
    state.catalogue.window = window ∧ state.catalogue.fingerprint = fingerprint state.catalogue.all := by
  have kept := Catalogue.run_induction
    (motive := fun held => held.Complete ∧ held.window = window ∧ held.fingerprint = fingerprint held.all)
    ⟨Catalogue.complete_empty window, rfl, rfl⟩ fun _ operation ⟨complete, same, current⟩ =>
      have step := Catalogue.pointwise_perform complete operation
      ⟨Catalogue.complete_perform complete operation, step.window.trans same, step.published current⟩
  rw [(serves_runs runs).catalogue]
  exact (kept _).2

end Discovery.Clients
