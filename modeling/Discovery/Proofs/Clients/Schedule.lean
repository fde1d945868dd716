import Discovery.Proofs.Clients.Order
/-!
# The worker by itself

While no client comes in between, the events of the worker follow each other in one way, and what they add up to is what
the worker does about its commands when it executes them in one go.
-/
namespace Discovery

/-! ## Channels of other messages -/

namespace Channel

variable {α β : Type}

def map (change : α → β) (channel : Channel α) : Channel β :=
  ⟨channel.capacity, channel.waiting.map change, channel.receiving⟩

theorem send_map (change : α → β) (channel : Channel α) (message : α) :
    (channel.map change).send (change message) = (channel.send message).map (map change) := by
  unfold send
  simp only [map, List.length_map]
  split
  · rfl
  · split
    · rfl
    · simp [Except.map, map]

theorem receive?_map (change : α → β) (channel : Channel α) :
    (channel.map change).receive? = channel.receive?.map fun (message, rest) => (change message, rest.map change) := by
  unfold receive?
  cases waiting : channel.waiting <;> simp [map, waiting]

end Channel

namespace Worker

variable {δ : Type} [Device δ] {worker next : Worker δ} {surroundings : Surroundings} {activity : Activity}

theorem drain_of_none (nothing : worker.next? surroundings = none) : worker.drain surroundings = (worker, .none) := by
  rw [drain]
  split <;> simp_all

theorem drain_of_some (taken : worker.next? surroundings = some (next, activity)) :
    worker.drain surroundings = ((next.drain surroundings).1, activity ++ (next.drain surroundings).2) := by
  rw [drain]
  split <;> simp_all

end Worker

theorem Activity.append_none (activity : Activity) : activity ++ .none = activity := by
  have parts : activity ++ .none = ⟨activity.answers ++ [], activity.changes ++ [], activity.calls ++ [],
    activity.logs ++ []⟩ := rfl
  simp only [parts, List.append_nil]

namespace Clients

variable {ι δ : Type} [DecidableEq ι] [Device δ]

/-- The worker, to whom it makes no difference who has sent a command. -/
def State.worker (state : State ι δ) : Worker δ :=
  { catalogue := state.catalogue, dispatcher := state.dispatcher, commands := state.commands.map (·.command)
    requests := state.requests, running := state.phase.isRunning }

/-- The answers that have been given, in order. -/
def answered (trace : List (Event ι)) : List (List Record) := (executions trace).filterMap (·.step.answer)

/-- The calls on the backend, in order. -/
def called (trace : List (Event ι)) : List BackendCall :=
  trace.flatMap fun
    | .trigger _ _ calls | .close calls => calls
    | _ => []

/-- The event is one of the worker's own. -/
def Event.isOwn : Event ι → Bool
  | .accept ⟨_, .scan _, _⟩ | .take _ | .serve _ | .overflow .. | .stop _ | .trigger .. | .lose .. | .rest | .close _
  | .hangUp => true
  | _ => false

/-- The events are the worker's own, and add up to this, as far as anyone but the log can tell. -/
structure Does (trace : List (Event ι)) (activity : Activity) : Prop where
  own : trace.all Event.isOwn = true
  answers : answered trace = activity.answers
  changes : announced trace = activity.changes
  calls : called trace = activity.calls

/-- No command is waiting, and the worker is back in its loop or has ended. -/
structure State.Settled (state : State ι δ) : Prop where
  unserved : state.commands.waiting = []
  phase : state.phase = .receiving ∨ ∃ failed, state.phase = .ended failed ∧ state.commands.receiving = false

/-- There is a way from one state to the other, on which this is done. -/
def Reaches (state : State ι δ) (activity : Activity) (next : State ι δ) : Prop :=
  ∃ trace, Runs state trace next ∧ Does trace activity

section
variable {state between next : State ι δ} {event : Event ι} {first second : Activity}

omit [DecidableEq ι] in
theorem Does.append {trace later : List (Event ι)} (before : Does trace first) (after : Does later second) :
    Does (trace ++ later) (first ++ second) := by
  constructor
  · rw [List.all_append, before.own, after.own]
    rfl
  · have both : answered (trace ++ later) = answered trace ++ answered later := by simp [answered]
    rw [both, before.answers, after.answers]
    rfl
  · rw [announced_append, before.changes, after.changes]
    rfl
  · have both : called (trace ++ later) = called trace ++ called later := List.flatMap_append
    rw [both, before.calls, after.calls]
    rfl

theorem Runs.trans {start : State ι δ} {trace later : List (Event ι)} (runs : Runs start trace between)
    (on : Runs between later next) : Runs start (trace ++ later) next := by
  induction on with
  | start => simpa using runs
  | next _ happens ih =>
    rw [← List.append_assoc]
    exact ih.next happens

theorem Reaches.refl (state : State ι δ) : Reaches state .none state := ⟨[], .start, rfl, rfl, rfl, rfl⟩

theorem Reaches.trans (before : Reaches state first between) (after : Reaches between second next) :
    Reaches state (first ++ second) next := by
  obtain ⟨trace, runs, does⟩ := before
  obtain ⟨later, on, more⟩ := after
  exact ⟨trace ++ later, runs.trans on, does.append more⟩

theorem Reaches.of_silent (happens : Happens state event between) (silent : Does [event] .none)
    (after : Reaches between first next) : Reaches state first next := by
  have before : Reaches state .none between := ⟨[event], Runs.start.next happens, silent⟩
  exact before.trans after

theorem Happens.reaches (happens : Happens state event next) (does : Does [event] first) : Reaches state first next :=
  ⟨[event], Runs.start.next happens, does⟩

end

/-! ## Scans -/

variable {state : State ι δ} {cause : Nat} {due : List Category}

theorem reaches_feed {found : List Sighting} (scanning : state.phase = .scanning cause found due) :
    ∃ next, Reaches state .none next ∧ next.phase = .scanning cause [] due ∧
      next.worker = (state.worker.feed found).1 := by
  induction found generalizing state with
  | nil => exact ⟨state, .refl state, scanning, rfl⟩
  | cons sighting rest ih =>
    have sent := state.commands.send_map (·.command) ⟨state.tickets, .scan cause, .ofSighting sighting⟩
    cases result : state.commands.send ⟨state.tickets, .scan cause, .ofSighting sighting⟩ with
    | error error =>
      let lost : State ι δ := { state with phase := .scanning cause rest due }
      have happens : Happens state (.lose cause sighting) lost := .lose scanning (.inl ⟨error, result⟩)
      obtain ⟨next, reaches, scanned, same⟩ := ih (rfl : lost.phase = .scanning cause rest due)
      refine ⟨next, reaches.of_silent happens ⟨rfl, rfl, rfl, rfl⟩, scanned, same.trans ?_⟩
      rw [result] at sent
      simp [Worker.feed, Channel.sendAll, State.worker, lost, sent, Except.map, scanning, Phase.isRunning]
    | ok commands =>
      let fed : State ι δ := { state.accepting commands with phase := .scanning cause rest due }
      have happens : Happens state (.accept ⟨state.tickets, .scan cause, .ofSighting sighting⟩) fed := .emit scanning result
      obtain ⟨next, reaches, scanned, same⟩ := ih (rfl : fed.phase = .scanning cause rest due)
      refine ⟨next, reaches.of_silent happens ⟨rfl, rfl, rfl, rfl⟩, scanned, same.trans ?_⟩
      rw [result] at sent
      simp [Worker.feed, Channel.sendAll, State.worker, fed, State.accepting, sent, Except.map, scanning, Phase.isRunning]

theorem reaches_scan (host : Host) (scanning : state.phase = .scanning cause [] due) :
    ∃ next, Reaches state (state.worker.scan host due).2 next ∧ next.phase = .scanning cause [] [] ∧
      next.worker = (state.worker.scan host due).1 := by
  induction due generalizing state with
  | nil => exact ⟨state, .refl state, scanning, rfl⟩
  | cons category rest ih =>
    -- The scan is triggered, what it finds is sent, and then it is the turn of the others.
    let done := state.dispatcher.trigger state.requests host category
    let triggered : State ι δ :=
      { state with
        dispatcher := done.dispatcher, requests := done.requests
        phase := .scanning cause done.effects.sightings rest }
    have happens : Happens state (.trigger cause category done.calls) triggered := .trigger scanning rfl
    obtain ⟨fed, first, quiet, same⟩ := reaches_feed (rfl : triggered.phase = .scanning cause done.effects.sightings rest)
    obtain ⟨next, second, through, final⟩ := ih quiet
    have worker : triggered.worker = { state.worker with dispatcher := done.dispatcher, requests := done.requests } := by
      simp [State.worker, triggered, scanning, Phase.isRunning]
    rw [worker] at same
    rw [same] at second final
    refine ⟨next, ?_, through, final⟩
    have asked (logs : List Log) : Does ([.trigger cause category done.calls] : List (Event ι)) ⟨[], [], done.calls, logs⟩ :=
      ⟨rfl, rfl, rfl, List.append_nil done.calls⟩
    exact (happens.reaches (asked _)).trans (first.trans second)

/-! ## Commands -/

theorem reaches_stop {failed : Bool} (leaving : state.phase = .leaving failed) :
    ∃ next, Reaches state state.worker.stop.2 next ∧ next.worker = state.worker.stop.1 ∧ next.Settled := by
  let closed : State ι δ := { state with phase := .closed failed }
  let ended : State ι δ := { closed with commands := closed.commands.close, phase := .ended failed }
  have close : Happens state (.close state.dispatcher.close.1) closed := .close leaving
  have hangUp : Happens closed .hangUp ended := .hangUp rfl
  have calls : Does ([.close state.dispatcher.close.1] : List (Event ι)) state.worker.stop.2 :=
    ⟨rfl, rfl, rfl, List.append_nil _⟩
  have last : Reaches closed .none ended := hangUp.reaches ⟨rfl, rfl, rfl, rfl⟩
  have whole := (close.reaches calls).trans last
  rw [Activity.append_none] at whole
  exact ⟨ended, whole, rfl, rfl, .inr ⟨failed, rfl, rfl⟩⟩

/-- The worker executes the oldest command, and is back in its loop if it has not left it for good. -/
theorem reaches_next {surroundings : Surroundings} {worker : Worker δ} {activity : Activity}
    (receiving : state.phase = .receiving) (taken : state.worker.next? surroundings = some (worker, activity)) :
    ∃ next, Reaches state activity next ∧ next.worker = worker ∧
      (next.phase = .receiving ∨ next.Settled) := by
  have received := state.commands.receive?_map (·.command)
  cases result : state.commands.receive? with
  | none =>
    rw [result] at received
    simp [Worker.next?, State.worker, received] at taken
  | some first =>
    obtain ⟨envelope, rest⟩ := first
    let executing : State ι δ := { state with commands := rest, phase := .executing envelope }
    have take : Happens state (.take envelope) executing := .take receiving result
    have executed : executing.worker.execute surroundings envelope.command = (worker, activity) := by
      rw [result] at received
      simpa [Worker.next?, State.worker, received, receiving, Phase.isRunning] using taken
    cases command : envelope.command with
    | shutdown =>
      let leaving : State ι δ := { executing with phase := .leaving false }
      have stop : Happens executing (.stop envelope) leaving := .stop rfl command
      obtain ⟨next, reaches, same, settled⟩ := reaches_stop (rfl : leaving.phase = .leaving false)
      rw [command] at executed
      cases executed
      have told (logs : List Log) : Does ([.stop envelope] : List (Event ι)) ⟨[], [], [], logs⟩ := ⟨rfl, rfl, rfl, rfl⟩
      exact ⟨next, ((stop.reaches (told _)).trans reaches).of_silent take ⟨rfl, rfl, rfl, rfl⟩, same, .inr settled⟩
    | request request =>
      rw [command, Worker.execute] at executed
      cases handled : executing.worker.catalogue.serve surroundings.moment request with
      | error =>
        let leaving : State ι δ := { executing with phase := .leaving true }
        have overflow : Happens executing (.overflow envelope surroundings.moment.reading) leaving :=
          .overflow rfl command handled
        obtain ⟨next, reaches, same, settled⟩ := reaches_stop (rfl : leaving.phase = .leaving true)
        rw [handled] at executed
        cases executed
        have reaches := (reaches.of_silent overflow ⟨rfl, rfl, rfl, rfl⟩).of_silent take ⟨rfl, rfl, rfl, rfl⟩
        exact ⟨next, reaches, same, .inr settled⟩
      | ok step =>
        let serving := executing.serving envelope.ticket step
        have serve : Happens executing (.serve ⟨envelope, request, surroundings.moment.reading, step⟩) serving :=
          .serve rfl command handled
        have answers : Does [.serve ⟨envelope, request, surroundings.moment.reading, step⟩]
            ⟨step.answer.toList, step.changes, [], step.logs⟩ :=
          ⟨rfl, by cases answer : step.answer <;> simp [answered, executions, answer], by simp [announced, executions], rfl⟩
        obtain ⟨scanned, reaches, through, same⟩ :=
          reaches_scan surroundings.host (rfl : serving.phase = .scanning envelope.ticket [] _)
        let next : State ι δ := { scanned with phase := .receiving }
        have last : Happens scanned .rest next := .rest through
        have last : Reaches scanned .none next := last.reaches ⟨rfl, rfl, rfl, rfl⟩
        rw [handled] at executed
        have worker : next.worker = scanned.worker := by simp [State.worker, next, through, Phase.isRunning]
        have whole := (serve.reaches answers).trans (reaches.trans last)
        rw [Activity.append_none] at whole
        cases executed
        exact ⟨next, whole.of_silent take ⟨rfl, rfl, rfl, rfl⟩, worker.trans same, .inl rfl⟩

omit [DecidableEq ι] in
theorem unserved_of_next? {surroundings : Surroundings} (nothing : state.worker.next? surroundings = none) :
    state.commands.waiting = [] := by
  cases waiting : state.commands.waiting with
  | nil => rfl
  | cons => simp [Worker.next?, Channel.receive?, State.worker, Channel.map, waiting] at nothing

/-- What the worker does until no command is waiting is what one of the runs of the worker among its clients leads to. -/
theorem reaches_drain (surroundings : Surroundings) (receiving : state.phase = .receiving) :
    ∃ next, Reaches state (state.worker.drain surroundings).2 next ∧
      next.worker = (state.worker.drain surroundings).1 ∧ next.Settled := by
  induction same : state.worker using @Worker.drain.induct δ _ surroundings generalizing state with
  | case1 worker nothing =>
    subst same
    rw [Worker.drain_of_none nothing]
    exact ⟨state, .refl state, rfl, unserved_of_next? nothing, .inl receiving⟩
  | case2 worker next activity taken final more _ ih =>
    rw [Worker.drain_of_some taken]
    obtain ⟨between, reaches, rfl, receiving | settled⟩ := reaches_next receiving (same ▸ taken)
    · obtain ⟨last, on, done⟩ := ih receiving rfl
      exact ⟨last, reaches.trans on, done⟩
    · have nothing : between.worker.next? surroundings = none := by
        simp [Worker.next?, Channel.receive?, State.worker, Channel.map, settled.unserved]
      rw [Worker.drain_of_none nothing, Activity.append_none]
      exact ⟨between, reaches, rfl, settled⟩

/-! ## Calls -/

section
variable {next : State ι δ} {event : Event ι} {trace : List (Event ι)}

theorem Happens.calls_of_own (happens : Happens state event next) (own : event.isOwn = true) :
    next.calls = state.calls ∧ next.joined = state.joined := by
  cases happens with
  | call | shutdown | pass | enter | refuse | finish | browse | browserLeaves => cases own
  | _ => exact ⟨rfl, rfl⟩

/-- Clients notice nothing of what the worker does by itself. -/
theorem Runs.calls_of_own (runs : Runs state trace next) (own : trace.all Event.isOwn = true) :
    next.calls = state.calls ∧ next.joined = state.joined := by
  induction runs with
  | start => exact ⟨rfl, rfl⟩
  | next _ happens ih =>
    simp only [List.all_append, List.all_cons, List.all_nil, Bool.and_true, Bool.and_eq_true] at own
    obtain ⟨calls, joined⟩ := ih own.1
    obtain ⟨same, still⟩ := happens.calls_of_own own.2
    exact ⟨same.trans calls, still.trans joined⟩

variable {catalogue : Catalogue} {dispatcher : Dispatcher δ} {requestSlots : Nat}

theorem capacity_runs (runs : Runs (.start catalogue dispatcher requestSlots) trace state) :
    state.commands.capacity = Worker.slots := by
  induction runs with
  | start => rfl
  | next _ happens ih =>
    cases happens with
    | enter _ sent | emit _ sent =>
      rw [eq_of_send sent]
      exact ih
    | take _ received =>
      rw [eq_of_receive? received] at ih
      exact ih
    | _ => exact ih

/-- When nothing waits, the queue refuses a command only if it is closed. -/
theorem closed_of_send (runs : Runs (.start catalogue dispatcher requestSlots) trace state) (settled : state.Settled)
    {command : Command} {error : SendError} (refused : state.worker.commands.send command = .error error) :
    state.commands.receiving = false := by
  have free : ¬ Worker.slots ≤ 0 := by decide
  cases receiving : state.commands.receiving with
  | false => rfl
  | true => simp [Channel.send, State.worker, Channel.map, receiving, settled.unserved, capacity_runs runs, free] at refused

omit [DecidableEq ι] [Device δ] in
theorem receiving_of_send (settled : state.Settled) {command : Command} {commands : Channel Command}
    (sent : state.worker.commands.send command = .ok commands) : state.phase = .receiving := by
  rcases settled.phase with receiving | ⟨_, _, closed⟩
  · exact receiving
  · simp [Channel.send, State.worker, Channel.map, closed] at sent

/-- Once the worker has done all that it had to do, a call that is still waiting can return. -/
theorem exists_returns (runs : Runs (.start catalogue dispatcher requestSlots) trace state) (settled : state.Settled)
    {client : ι} {ticket : Nat} {command : Command} (sent : state.calls client = .sent ticket command) :
    ∃ result, Returns state ticket command result := by
  rcases settled.phase with receiving | ⟨failed, ended, _⟩
  · -- All commands that have been accepted have been served, so this one was a request, and a query has its answer.
    have queues := queues_runs runs
    have member := accepted_of_sent runs sent
    rw [queues.pending (by rw [receiving]; rfl), receiving, settled.unserved] at member
    simp only [Phase.inHand, List.append_nil, List.mem_map] at member
    obtain ⟨execution, served, same⟩ := member
    obtain ⟨earlier, later, split⟩ := List.append_of_mem served
    obtain ⟨request, handled⟩ := (serves_runs runs).steps earlier execution later split
    have number := queues.ticket_of_execution split
    rw [same] at request number
    cases request
    cases query : execution.request.isQuery with
    | false => exact ⟨.done, .told query⟩
    | true =>
      obtain ⟨records, answer⟩ := Option.isSome_iff_exists.mp ((isSome_answer handled).trans query)
      refine ⟨.records records, .answered query ?_⟩
      rw [replies_eq runs, split, show ticket = earlier.length from number, List.getElem?_append_right (Nat.le_refl _)]
      simpa using answer
  · cases command with
    | shutdown =>
      cases failed with
      | false => exact ⟨.done, .joined ended⟩
      | true => exact ⟨.failed, .broken ended⟩
    | request request =>
      cases query : request.isQuery with
      | false => exact ⟨.done, .told query⟩
      | true =>
        cases reply : state.replies ticket with
        | none => exact ⟨.failed, .unanswered query ended reply⟩
        | some records => exact ⟨.records records, .answered query reply⟩

end

end Clients

end Discovery
