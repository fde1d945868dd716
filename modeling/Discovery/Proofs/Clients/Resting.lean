import Discovery.Proofs.Clients.Ending
/-!
# How the worker comes to rest

A scan puts into the queue what it finds, and the worker that does so is the only one that takes anything out of it. But
what a scan finds leads to no other scan, so when nobody calls anything, the worker has less to do with everything it does,
and is at rest in the end.
-/
namespace Discovery.Clients

open Time (Span)

variable {ι δ : Type} [DecidableEq ι] [Device δ]
variable {state next : State ι δ} {event : Event ι} {trace : List (Event ι)}
variable {catalogue : Catalogue} {dispatcher : Dispatcher δ} {requestSlots : Nat} {host : Host}

/-- No client is about to send anything. -/
def State.Unsent (state : State ι δ) : Prop := ∀ client, (state.calls client).unsent = []

/-- No command is being sent, waits or is being executed, and no scan is under way. -/
structure State.AtRest (state : State ι δ) : Prop where
  receiving : state.phase = .receiving
  unserved : state.commands.waiting = []
  unsent : state.Unsent

/-- What follows on a state while nobody disturbs the worker and the host stays as it is. -/
inductive Proceeds (host : Host) (start : State ι δ) : List (Event ι) → State ι δ → Prop
  | start : Proceeds host start [] start
  | next {trace : List (Event ι)} {state next : State ι δ} {event : Event ι} : Proceeds host start trace state →
      Undisturbed host state event next → Proceeds host start (trace ++ [event]) next

theorem Proceeds.runs {start : State ι δ} (proceeds : Proceeds host start trace state) : Runs start trace state := by
  induction proceeds with
  | start => exact .start
  | next _ undisturbed ih => exact ih.next undisturbed.happens

theorem Proceeds.trans {start : State ι δ} {later : List (Event ι)} (proceeds : Proceeds host start trace state)
    (on : Proceeds host state later next) : Proceeds host start (trace ++ later) next := by
  induction on with
  | start => simpa using proceeds
  | next _ undisturbed ih =>
    rw [← List.append_assoc]
    exact ih.next undisturbed

/-- What scans have found and could not put into the queue, in order. -/
def losses {ι : Type} (trace : List (Event ι)) : List Sighting :=
  trace.filterMap fun
    | .lose _ sighting => some sighting
    | _ => none

omit [DecidableEq ι] in
@[simp] theorem losses_append (trace later : List (Event ι)) : losses (trace ++ later) = losses trace ++ losses later :=
  List.filterMap_append

/-! ## Clients that wait -/

omit [DecidableEq ι] [Device δ] in
theorem State.Unsent.of_sending (unsent : state.Unsent) {client : ι} {command : Command} :
    state.calls client ≠ .sending command := by
  intro sending
  have nothing := unsent client
  rw [sending] at nothing
  cases nothing

theorem Undisturbed.unsent (undisturbed : Undisturbed host state event next) (unsent : state.Unsent) : next.Unsent := by
  intro other
  cases undisturbed.happens with
  | call | shutdown => exact absurd rfl (undisturbed.uncalled _ _)
  | enter sending | refuse sending => exact absurd sending unsent.of_sending
  | @finish client =>
    by_cases same : other = client
    · simp [same, Calling.unsent]
    · simpa [same] using unsent other
  | _ => exact unsent other

/-- As long as clients do not send anything, what is not the worker's own leaves the queue alone, too. -/
theorem Undisturbed.worker_of_foreign (undisturbed : Undisturbed host state event next) (unsent : state.Unsent)
    (foreign : event.isOwn = false) : next.phase = state.phase ∧ next.commands = state.commands ∧
      accepted [event] = [] ∧ executions [event] = [] ∧ losses [event] = [] := by
  cases undisturbed.happens with
  | enter sending => exact absurd sending unsent.of_sending
  | call | shutdown | pass | refuse | finish | browse | browserLeaves => exact ⟨rfl, rfl, rfl, rfl, rfl⟩
  | _ => cases foreign

/-- A client that has not called is not waiting for anything. -/
theorem State.AtRest.idle_of_uncalled (rest : state.AtRest) (runs : Runs (.start catalogue dispatcher requestSlots) trace state)
    {client : ι} (uncalled : issued client trace = []) : state.calls client = .idle := by
  have running : state.phase.isRunning = true := by
    rw [rest.receiving]
    rfl
  have books := issued_eq runs running client
  rw [uncalled] at books
  have none := (List.append_eq_nil_iff.mp books.symm).1
  cases calls : state.calls client with
  | idle => rfl
  | sending command => exact absurd calls rest.unsent.of_sending
  | sent ticket command =>
    have absent := List.filterMap_eq_nil_iff.mp none _ (accepted_of_sent runs calls)
    simp [Envelope.of?] at absent

/-! ## What is left to do -/

/-- Whenever no request is being served, the scans that it asks for have been taken up. -/
theorem pending_runs {window : Span} (runs : Runs (.start (.empty window) dispatcher requestSlots) trace state) :
    state.catalogue.pending = [] := by
  induction runs with
  | start => rfl
  | next _ happens ih =>
    rcases happens.serves_or_not with ⟨_, _, _, _, _, rfl⟩ | ⟨_, same, _⟩
    · rfl
    · rw [same]
      exact ih

/-- What is left to do: commands that can lead to scans, scans, sightings to report, and then commands of any kind. -/
def State.workload (state : State ι δ) : Nat × Nat × Nat × Nat × Nat :=
  let unserved := state.phase.inHand ++ state.commands.waiting
  (unserved.countP (·.command.scans), state.phase.due.length, state.phase.found.length, unserved.length, state.phase.rank)

abbrev Lighter : Nat × Nat × Nat × Nat × Nat → Nat × Nat × Nat × Nat × Nat → Prop := Prod.Lex (· < ·) Nearer

/-- Whatever the worker does leaves less to do, as long as it stays in its loop. -/
theorem Happens.lighter (happens : Happens state event next) (own : event.isOwn = true)
    (running : next.phase.isRunning = true) (taken : state.catalogue.pending = []) :
    Lighter next.workload state.workload := by
  cases happens with
  | call | shutdown | pass | enter | refuse | finish | browse | browserLeaves => cases own
  | overflow | stop | close | hangUp => cases running
  | take phase received =>
    simp [State.workload, phase, Phase.inHand, Phase.due, Phase.found, Phase.rank, eq_of_receive? received, Prod.lex_def]
  | @serve envelope request _ step phase command handled =>
    cases request with
    | sighting incoming =>
      -- A sighting asks for no scan, and none has been waiting to be taken up.
      obtain ⟨silent, kept⟩ := Worker.scans_of_sighting handled
      simp [State.workload, State.serving, phase, Phase.inHand, Phase.due, Phase.found, command, Command.scans, silent,
        Catalogue.runPending, kept, taken, Prod.lex_def]
    | services | sessions | everything | scan | scanAll | cleanUpAll =>
      simp [State.workload, State.serving, phase, Phase.inHand, command, Command.scans, Prod.lex_def]
  | trigger phase =>
    simp [State.workload, phase, Phase.inHand, Phase.due, Prod.lex_def]
  | emit phase sent =>
    simp [State.workload, State.accepting, phase, Phase.inHand, Phase.due, Phase.found, eq_of_send sent, Command.ofSighting,
      Command.scans, Prod.lex_def]
  | lose phase =>
    simp [State.workload, phase, Phase.inHand, Phase.due, Phase.found, Prod.lex_def]
  | rest phase =>
    simp [State.workload, phase, Phase.inHand, Phase.due, Phase.found, Phase.rank, Prod.lex_def]

/-- No command to shut down is waiting for a worker that runs. -/
structure State.Lasting (state : State ι δ) : Prop where
  running : state.phase.isRunning = true
  requests : ∀ envelope ∈ state.phase.inHand ++ state.commands.waiting, envelope.command ≠ .shutdown

theorem Undisturbed.lasting (undisturbed : Undisturbed host state event next) (lasting : state.Lasting)
    (unsent : state.Unsent) : next.Lasting := by
  obtain ⟨happens, uncalled, fits, _⟩ := undisturbed
  have running : next.phase.isRunning = true := by
    have before := lasting.running
    cases happens with
    | overflow => exact absurd rfl (fits _ _)
    | stop phase shutdown => exact absurd shutdown (lasting.requests _ (by simp [phase, Phase.inHand]))
    | close phase | hangUp phase =>
      rw [phase] at before
      cases before
    | take | serve | trigger | emit | lose | rest => rfl
    | _ => exact before
  refine ⟨running, fun envelope member => ?_⟩
  -- What is still to be executed was so before, or has just been accepted, from a scan.
  have inside : envelope ∈ state.phase.inHand ++ state.commands.waiting ++ accepted [event] := by
    rw [← happens.pending_eq running]
    exact List.mem_append_right _ member
  rcases List.mem_append.mp inside with before | latest
  · exact lasting.requests envelope before
  · cases happens with
    | enter sending => exact absurd sending unsent.of_sending
    | emit =>
      rw [List.mem_singleton.mp latest]
      exact Command.noConfusion
    | _ => cases latest

/-- A worker that nobody disturbs comes to rest by itself. -/
theorem exists_rest {window : Span} {trace : List (Event ι)} {state : State ι δ}
    (runs : Runs (.start (.empty window) dispatcher requestSlots) trace state) (lasting : state.Lasting)
    (unsent : state.Unsent) (host : Host) {moment : Moment} (fits : (moment.now.add? window).isSome = true) :
    ∃ later next, Proceeds host state later next ∧ next.AtRest ∧ later.all Event.isOwn = true ∧
      ∀ execution ∈ executions later, execution.reading = moment.reading := by
  by_cases resting : state.phase = .receiving ∧ state.commands.waiting = []
  · exact ⟨[], state, .start, ⟨resting.1, resting.2, unsent⟩, rfl, by simp [executions]⟩
  · -- It makes one step of its own, after which less is left to do, and goes on from there.
    have unended (failed : Bool) (ended : state.phase = .ended failed) : False := by
      have running := lasting.running
      rw [ended] at running
      cases running
    obtain ⟨event, next, undisturbed, own, now⟩ := exists_own (fun receiving nothing => resting ⟨receiving, nothing⟩) unended
      host ((catalogue_runs runs).1 ▸ fits)
    have more := undisturbed.lasting lasting unsent
    have lighter := undisturbed.happens.lighter own more.running (pending_runs runs)
    obtain ⟨later, last, on, done, owned, after⟩ := exists_rest (runs.next undisturbed.happens) more
      (undisturbed.unsent unsent) host fits
    have first : Proceeds host state [event] next := Proceeds.start.next undisturbed
    refine ⟨[event] ++ later, last, first.trans on, done, by simp [own, owned], fun execution member => ?_⟩
    rw [executions_append, List.mem_append] at member
    exact member.elim (now execution) (after execution)
  termination_by state.workload
  decreasing_by exact lighter

end Discovery.Clients
