import Discovery.Proofs.Catalogue.Contents
import Discovery.Proofs.Clients.System
import Discovery.Proofs.Trace
/-!
# What clients see of the worker

Calls, scans and the worker interleave in any way, but the queue puts their commands into one order, and what comes of
them is what a catalogue does that serves them in that order, all alone, and triggers after each the scans that are due.
-/
namespace Discovery.Clients

variable {ι δ : Type} [DecidableEq ι] [Device δ]
variable {state next : State ι δ} {event : Event ι} {trace : List (Event ι)}
variable {catalogue : Catalogue} {dispatcher : Dispatcher δ} {requestSlots : Nat}

section
variable {ι : Type} (trace : List (Event ι)) (event : Event ι)

@[simp] theorem accepted_append (later : List (Event ι)) : accepted (trace ++ later) = accepted trace ++ accepted later :=
  List.filterMap_append

@[simp] theorem executions_append (later : List (Event ι)) :
    executions (trace ++ later) = executions trace ++ executions later := List.filterMap_append

@[simp] theorem triggered_append (later : List (Event ι)) :
    triggered (trace ++ later) = triggered trace ++ triggered later := List.filterMap_append

@[simp] theorem announced_append (later : List (Event ι)) :
    announced (trace ++ later) = announced trace ++ announced later := by simp [announced]

@[simp] theorem issued_append [DecidableEq ι] (client : ι) (later : List (Event ι)) :
    issued client (trace ++ later) = issued client trace ++ issued client later := List.filterMap_append

end

/-! ## Serving -/

/-- Either a request is served, or catalogue and answers stay as they are, and so do the scans that are due, but for those
that are triggered. -/
theorem Happens.serves_or_not (happens : Happens state event next) :
    (∃ execution, event = .serve execution ∧ state.phase = .executing execution.envelope ∧
      execution.envelope.command = .request execution.request ∧
      state.catalogue.handle execution.reading execution.request = .ok execution.step ∧
      next = state.serving execution.envelope.ticket execution.step) ∨
    (executions [event] = [] ∧ next.catalogue = state.catalogue ∧ next.replies = state.replies ∧
      triggered [event] ++ next.phase.due = state.phase.due) := by
  cases happens with
  | serve executing request handled => exact .inl ⟨_, rfl, executing, request, handled, rfl⟩
  | trigger scanning | emit scanning | lose scanning | rest scanning => exact .inr ⟨rfl, rfl, rfl, by rw [scanning]; rfl⟩
  | take receiving => exact .inr ⟨rfl, rfl, rfl, by rw [receiving]; rfl⟩
  | overflow executing | stop executing => exact .inr ⟨rfl, rfl, rfl, by rw [executing]; rfl⟩
  | close leaving => exact .inr ⟨rfl, rfl, rfl, by rw [leaving]; rfl⟩
  | hangUp closed => exact .inr ⟨rfl, rfl, rfl, by rw [closed]; rfl⟩
  | _ => exact .inr ⟨rfl, rfl, rfl, rfl⟩

/-- The catalogue, what it has announced and what it has triggered or is about to, and every step that it has taken are
those of a catalogue that is alone. -/
structure Serves (start : Catalogue) (trace : List (Event ι)) (state : State ι δ) : Prop where
  catalogue : state.catalogue = (start.run (turns (executions trace))).catalogue
  changes : announced trace = (start.run (turns (executions trace))).changes
  scans : triggered trace ++ state.phase.due = (start.run (turns (executions trace))).scans
  steps : ∀ earlier execution later, executions trace = earlier ++ execution :: later →
    execution.envelope.command = .request execution.request ∧
    (start.run (turns earlier)).catalogue.handle execution.reading execution.request = .ok execution.step

omit [DecidableEq ι] in
theorem run_turns_concat {start : Catalogue} {earlier : List (Execution ι)} {execution : Execution ι}
    (handled : (start.run (turns earlier)).catalogue.handle execution.reading execution.request = .ok execution.step) :
    let past := start.run (turns earlier)
    let settled := execution.step.catalogue.runPending
    let now := start.run (turns (earlier ++ [execution]))
    now.catalogue = settled.catalogue ∧ now.changes = past.changes ++ execution.step.changes ∧
      now.scans = past.scans ++ (execution.step.scans ++ settled.scans) := by
  intro past settled now
  have performed : past.catalogue.perform (.request execution.request execution.reading) = execution.step := by
    simp only [Catalogue.perform, past, handled]
  have run : now = past.andThen fun held => (held.perform (.request execution.request execution.reading)).andThen
      fun held => (held.runPending).andThen Catalogue.idle := by
    simp only [now, turns, List.flatMap_append, Catalogue.run_append]
    rfl
  simp only [run, Step.andThen, performed]
  simp [settled, Catalogue.idle, Catalogue.runPending]

theorem Serves.happens {start : Catalogue} (serves : Serves start trace state) (happens : Happens state event next) :
    Serves start (trace ++ [event]) next := by
  rcases happens.serves_or_not with ⟨execution, rfl, executing, request, handled, rfl⟩ | ⟨none, same, _, due⟩
  · rw [serves.catalogue] at handled
    obtain ⟨settled, changes, scans⟩ := run_turns_concat handled
    have more : executions (trace ++ [.serve execution]) = executions trace ++ [execution] := executions_append trace _
    -- While a command is executed no scan is due.
    have before := serves.scans
    rw [executing] at before
    refine ⟨?_, ?_, ?_, fun earlier other later split => ?_⟩
    · rw [more, settled]
      rfl
    · rw [more, changes, ← serves.changes, announced_append]
      simp [announced, executions]
    · rw [more, scans, ← before, triggered_append]
      simp [triggered, State.serving, Phase.due]
    · rw [more] at split
      rcases split_concat split with ⟨rfl, rfl, _⟩ | ⟨between, _, inside⟩
      · exact ⟨request, handled⟩
      · exact serves.steps earlier other between inside
  · have unmoved : executions (trace ++ [event]) = executions trace := by rw [executions_append, none, List.append_nil]
    refine ⟨?_, ?_, ?_, ?_⟩
    · rw [same, unmoved, serves.catalogue]
    · rw [announced, unmoved, ← serves.changes, announced]
    · rw [unmoved, ← serves.scans, triggered_append, List.append_assoc, due]
    · rw [unmoved]
      exact serves.steps

theorem serves_runs (runs : Runs (.start catalogue dispatcher requestSlots) trace state) :
    Serves catalogue trace state := by
  induction runs with
  | start => exact ⟨rfl, rfl, rfl, fun earlier execution later split => by simp [executions] at split⟩
  | next _ happens ih => exact ih.happens happens

/-! ## The queue -/

theorem Happens.isRunning_of_next (happens : Happens state event next) (running : next.phase.isRunning = true) :
    state.phase.isRunning = true := by
  cases happens with
  | take phase | serve phase | trigger phase | emit phase | lose phase | rest phase => rw [phase]; rfl
  | overflow | stop | close | hangUp => simp [Phase.isRunning] at running
  | _ => exact running

omit [DecidableEq ι] [Device δ] in
theorem eq_of_send {α : Type} {channel sent : Channel α} {message : α} (accepted : channel.send message = .ok sent) :
    sent = { channel with waiting := channel.waiting ++ [message] } :=
  (Channel.send_eq_ok_iff.mp accepted).2

omit [DecidableEq ι] [Device δ] in
theorem eq_of_receive? {α : Type} {channel left : Channel α} {message : α}
    (received : channel.receive? = some (message, left)) :
    channel = { left with waiting := message :: left.waiting } := by
  unfold Channel.receive? at received
  split at received
  · cases received
  next waiting =>
    cases received
    rw [← waiting]

theorem Happens.tickets_eq (happens : Happens state event next) :
    next.tickets = state.tickets + (accepted [event]).length := by
  cases happens <;> rfl

theorem Happens.numbered (happens : Happens state event next) :
    (accepted [event]).map (·.ticket) = List.range' state.tickets (accepted [event]).length := by
  cases happens <;> rfl

/-- A command that has been accepted stays in the queue until it is taken, and in hand until it is served. -/
theorem Happens.pending_eq (happens : Happens state event next) (running : next.phase.isRunning = true) :
    (executions [event]).map (·.envelope) ++ (next.phase.inHand ++ next.commands.waiting) =
      state.phase.inHand ++ state.commands.waiting ++ accepted [event] := by
  cases happens with
  | enter _ sent => simp [State.accepting, State.withCall, eq_of_send sent, accepted, executions]
  | emit scanning sent => simp [State.accepting, eq_of_send sent, scanning, Phase.inHand, accepted, executions]
  | take receiving received => simp [eq_of_receive? received, receiving, Phase.inHand, accepted, executions]
  | serve executing => simp [executing, State.serving, Phase.inHand, accepted, executions]
  | trigger scanning | lose scanning | rest scanning => simp [scanning, Phase.inHand, accepted, executions]
  | overflow | stop | close | hangUp => simp [Phase.isRunning] at running
  | _ => simp [State.withCall, accepted, executions]

theorem Happens.pending_append (happens : Happens state event next) (running : next.phase.isRunning = true)
    (pending : accepted trace = (executions trace).map (·.envelope) ++ (state.phase.inHand ++ state.commands.waiting)) :
    accepted (trace ++ [event]) =
      (executions (trace ++ [event])).map (·.envelope) ++ (next.phase.inHand ++ next.commands.waiting) := by
  have moved := happens.pending_eq running
  simp only [accepted_append, executions_append, pending, List.map_append, List.append_assoc] at moved ⊢
  rw [moved]

theorem Happens.receiving_of_next (happens : Happens state event next) (running : next.phase.isRunning = true)
    (receiving : state.commands.receiving = true) : next.commands.receiving = true := by
  cases happens with
  | enter _ sent | emit _ sent =>
    rw [eq_of_send sent]
    exact receiving
  | take _ received =>
    rw [eq_of_receive? received] at receiving
    exact receiving
  | hangUp => simp [Phase.isRunning] at running
  | _ => exact receiving

/-- Tickets count the commands accepted. Those that have been served are the first of them, and while the worker runs the
others are in hand or wait. -/
structure Queues (trace : List (Event ι)) (state : State ι δ) : Prop where
  tickets : state.tickets = (accepted trace).length
  numbered : (accepted trace).map (·.ticket) = List.range (accepted trace).length
  served : (executions trace).map (·.envelope) <+: accepted trace
  pending : state.phase.isRunning = true →
    accepted trace = (executions trace).map (·.envelope) ++ (state.phase.inHand ++ state.commands.waiting)

namespace Queues

omit [DecidableEq ι] [Device δ] in
theorem ticket_of_split (queues : Queues trace state) {earlier later : List (Envelope ι)} {envelope : Envelope ι}
    (split : accepted trace = earlier ++ envelope :: later) : envelope.ticket = earlier.length := by
  have numbered := queues.numbered
  rw [split, List.map_append, List.map_cons, ← split] at numbered
  simpa using eq_length_of_range numbered.symm

omit [DecidableEq ι] [Device δ] in
theorem ticket_of_execution (queues : Queues trace state) {earlier later : List (Execution ι)} {execution : Execution ι}
    (split : executions trace = earlier ++ execution :: later) : execution.envelope.ticket = earlier.length := by
  obtain ⟨rest, behind⟩ := queues.served
  rw [split, List.map_append, List.map_cons, List.append_assoc, List.cons_append] at behind
  simpa using queues.ticket_of_split behind.symm

omit [DecidableEq ι] [Device δ] in
theorem lt_of_mem (queues : Queues trace state) {earlier later : List (Execution ι)} {execution other : Execution ι}
    (split : executions trace = earlier ++ execution :: later) (member : other ∈ earlier) :
    other.envelope.ticket < earlier.length := by
  obtain ⟨front, back, rfl⟩ := List.append_of_mem member
  rw [List.append_assoc, List.cons_append] at split
  rw [queues.ticket_of_execution split, List.length_append, List.length_cons]
  omega

omit [DecidableEq ι] [Device δ] in
theorem exists_of_lt (queues : Queues trace state) {earlier later : List (Execution ι)} {execution : Execution ι}
    (split : executions trace = earlier ++ execution :: later) {ticket : Nat} (below : ticket < earlier.length) :
    ∃ other ∈ earlier, other.envelope.ticket = ticket := by
  have parts : earlier = earlier.take ticket ++ earlier[ticket] :: earlier.drop (ticket + 1) := by simp
  rw [parts, List.append_assoc, List.cons_append] at split
  refine ⟨earlier[ticket], List.getElem_mem below, ?_⟩
  rw [queues.ticket_of_execution split, List.length_take, Nat.min_eq_left (Nat.le_of_lt below)]

omit [DecidableEq ι] [Device δ] in
theorem ticket_of_executing (queues : Queues trace state) {envelope : Envelope ι}
    (executing : state.phase = .executing envelope) : envelope.ticket = (executions trace).length := by
  have pending := queues.pending (by rw [executing]; rfl)
  rw [executing] at pending
  simpa using queues.ticket_of_split pending

theorem happens (queues : Queues trace state) (happens : Happens state event next) :
    Queues (trace ++ [event]) next := by
  have pending (running : next.phase.isRunning = true) :=
    happens.pending_append running (queues.pending (happens.isRunning_of_next running))
  refine ⟨?_, ?_, ?_, pending⟩
  · rw [happens.tickets_eq, queues.tickets, accepted_append, List.length_append]
  · -- The new tickets go on where the old ones end.
    have behind := happens.numbered
    rw [queues.tickets] at behind
    rw [accepted_append, List.map_append, List.length_append, queues.numbered, behind, List.range_eq_range',
      List.range_eq_range', ← List.range'_append_1, Nat.zero_add]
  · cases happens with
    | serve => exact ⟨_, (pending rfl).symm⟩
    | _ =>
      rw [accepted_append, executions_append]
      refine List.IsPrefix.trans ?_ (List.prefix_append _ _)
      simpa [executions] using queues.served

end Queues

theorem queues_runs (runs : Runs (.start catalogue dispatcher requestSlots) trace state) : Queues trace state := by
  induction runs with
  | start => exact ⟨rfl, rfl, List.prefix_rfl, fun _ => rfl⟩
  | next _ happens ih => exact ih.happens happens

/-- While scans are being triggered, the command that they follow is the last one that was served. -/
theorem length_of_scanning (runs : Runs (.start catalogue dispatcher requestSlots) trace state) {cause : Nat}
    {found : List Sighting} {due : List Category} (scanning : state.phase = .scanning cause found due) :
    (executions trace).length = cause + 1 := by
  induction runs generalizing cause found due with
  | start => cases scanning
  | @next trace state next event runs happens ih =>
    have queues := queues_runs runs
    cases happens with
    | serve executing =>
      cases scanning
      simp [executions, queues.ticket_of_executing executing]
    | trigger before | emit before | lose before =>
      cases scanning
      simpa [executions] using ih before
    | take | overflow | stop | rest | close | hangUp => cases scanning
    | _ => simpa [executions] using ih scanning

/-! ## Calls -/

theorem isReceiving_of_isRunning (runs : Runs (.start catalogue dispatcher requestSlots) trace state)
    (running : state.phase.isRunning = true) : state.commands.receiving = true := by
  induction runs with
  | start => rfl
  | next _ happens ih => exact happens.receiving_of_next running (ih (happens.isRunning_of_next running))

/-- While the queue is open a command that a client sends waits until it is accepted. -/
theorem Happens.unsent_eq (happens : Happens state event next) (receiving : state.commands.receiving = true)
    (client : ι) :
    (state.calls client).unsent ++ issued client [event] =
      (accepted [event]).filterMap (·.of? client) ++ (next.calls client).unsent := by
  cases happens with
  | @call caller request idle =>
    by_cases same : caller = client
    · subst same
      simp [issued, accepted, idle, Calling.unsent]
    · simp [issued, accepted, same, Ne.symm same]
  | @shutdown caller idle =>
    by_cases same : caller = client
    · subst same
      simp [issued, accepted, idle, Calling.unsent]
    · simp [issued, accepted, same, Ne.symm same]
  | @enter caller command commands sending =>
    by_cases same : caller = client
    · subst same
      simp [issued, accepted, State.accepting, sending, Calling.unsent, Envelope.of?]
    · simp [issued, accepted, State.accepting, Envelope.of?, same, Ne.symm same]
  | refuse _ closed => simp [receiving] at closed
  | @finish caller _ _ _ sent =>
    by_cases same : client = caller
    · subst same
      simp [issued, accepted, sent, Calling.unsent]
    · simp [issued, accepted, same]
  | emit => simp [issued, accepted, State.accepting, Envelope.of?]
  | _ => simp [issued, accepted, State.serving]

/-- The queue accepts the commands of a client in the order of its calls, each once. -/
theorem issued_eq (runs : Runs (.start catalogue dispatcher requestSlots) trace state)
    (running : state.phase.isRunning = true) (client : ι) :
    issued client trace = (accepted trace).filterMap (·.of? client) ++ (state.calls client).unsent := by
  induction runs with
  | start => rfl
  | next runs happens ih =>
    have before := happens.isRunning_of_next running
    have moved := happens.unsent_eq (isReceiving_of_isRunning runs before) client
    rw [issued_append, ih before, accepted_append, List.filterMap_append, List.append_assoc, List.append_assoc, moved]

/-- A call that has been accepted is under its ticket in the queue's books. -/
theorem accepted_of_sent (runs : Runs (.start catalogue dispatcher requestSlots) trace state) {client : ι} {ticket : Nat}
    {command : Command} (sent : state.calls client = .sent ticket command) :
    ⟨ticket, .client client, command⟩ ∈ accepted trace := by
  induction runs with
  | start => cases sent
  | next _ happens ih =>
    rw [accepted_append, List.mem_append]
    cases happens with
    | @enter caller command =>
      by_cases same : client = caller
      · subst same
        simp only [State.accepting, State.calls_withCall, if_true, Calling.sent.injEq] at sent
        obtain ⟨rfl, rfl⟩ := sent
        exact .inr (by simp [accepted])
      · exact .inl (ih (by simpa [State.accepting, same] using sent))
    | @call caller _ _ | @shutdown caller _ _ | @refuse caller _ _ _ | @finish caller _ _ _ _ _ =>
      by_cases same : client = caller
      · simp [same] at sent
      · exact .inl (ih (by simpa [same] using sent))
    | _ => exact .inl (ih sent)

/-! ## Answers -/

omit [DecidableEq ι] [Device δ] in
theorem isSome_answer {held : Catalogue} {reading : Reading} {request : Request} {step : Step}
    (handled : held.handle reading request = .ok step) : step.answer.isSome = request.isQuery := by
  rw [← Catalogue.perform_of_handle handled]
  cases request with
  | sighting incoming => rw [Catalogue.answer_sighting]; rfl
  | cleanUpAll => exact congrArg Option.isSome (Catalogue.answer_cleanUpAll held reading.clock)
  | services | sessions | everything | scan | scanAll => rfl

theorem replies_eq (runs : Runs (.start catalogue dispatcher requestSlots) trace state) (ticket : Nat) :
    state.replies ticket = (executions trace)[ticket]?.bind (·.step.answer) := by
  induction runs with
  | start => rfl
  | @next trace state next event runs happens ih =>
    rw [executions_append]
    rcases happens.serves_or_not with ⟨execution, rfl, executing, _, _, rfl⟩ | ⟨none, _, same, _⟩
    · have last := (queues_runs runs).ticket_of_executing executing
      have this : executions [Event.serve execution] = [execution] := rfl
      simp only [State.serving, ih, last, this]
      by_cases here : ticket = (executions trace).length
      · simp [here]
      · rw [if_neg here]
        rcases Nat.lt_or_gt_of_ne here with earlier | later
        · rw [List.getElem?_append_left earlier]
        · rw [List.getElem?_eq_none (by omega), List.getElem?_eq_none (by simp; omega)]
    · rw [none, List.append_nil, same, ih]

/-! ## Parts of a run -/

theorem runs_concat {start : State ι δ} : Runs start (trace ++ [event]) next ↔
    ∃ state, Runs start trace state ∧ Happens state event next := by
  refine ⟨fun runs => ?_, fun ⟨state, runs, happens⟩ => runs.next happens⟩
  generalize whole : trace ++ [event] = longer at runs
  cases runs with
  | start => simp at whole
  | next runs happens =>
    obtain ⟨rfl, same⟩ := List.append_inj' whole rfl
    cases same
    exact ⟨_, runs, happens⟩

/-- A run has come through a state after every part of its trace, and the worker was running there if it still is. -/
theorem Runs.of_append {start : State ι δ} {before after : List (Event ι)} (runs : Runs start (before ++ after) state) :
    ∃ past, Runs start before past ∧ (state.phase.isRunning = true → past.phase.isRunning = true) := by
  induction after using List.reverseRecOn generalizing state with
  | nil => exact ⟨state, by simpa using runs, id⟩
  | append_singleton after event ih =>
    rw [← List.append_assoc, runs_concat] at runs
    obtain ⟨between, runs, happens⟩ := runs
    obtain ⟨past, earlier, running⟩ := ih runs
    exact ⟨past, earlier, fun now => running (happens.isRunning_of_next now)⟩

theorem Runs.of_split {start : State ι δ} {before after : List (Event ι)}
    (runs : Runs start (before ++ event :: after) state) :
    ∃ past following, Runs start before past ∧ Happens past event following ∧
      (state.phase.isRunning = true → following.phase.isRunning = true) := by
  rw [List.append_cons] at runs
  obtain ⟨following, runs, running⟩ := runs.of_append
  obtain ⟨past, runs, happens⟩ := runs_concat.mp runs
  exact ⟨past, following, runs, happens, running⟩

theorem ticket_of_accept {before after : List (Event ι)} {envelope : Envelope ι}
    (runs : Runs (.start catalogue dispatcher requestSlots) (before ++ .accept envelope :: after) state) :
    envelope.ticket = (accepted before).length := by
  have split : accepted (before ++ .accept envelope :: after) = accepted before ++ envelope :: accepted after :=
    accepted_append before _
  exact (queues_runs runs).ticket_of_split split

/-- A scan sends sightings, and the queue accepts them after it has served the command that caused the scan. -/
theorem cause_lt_ticket (runs : Runs (.start catalogue dispatcher requestSlots) trace state) {envelope : Envelope ι}
    (member : envelope ∈ accepted trace) {cause : Nat} (caused : envelope.origin = .scan cause) :
    cause < envelope.ticket ∧ ∃ sighting, envelope.command = .ofSighting sighting := by
  obtain ⟨event, inside, this⟩ := List.mem_filterMap.mp member
  obtain ⟨before, after, rfl⟩ := List.append_of_mem inside
  obtain ⟨past, following, earlier, happens, _⟩ := runs.of_split
  cases happens with
  | enter =>
    cases this
    cases caused
  | @emit scan sighting found due commands scanning =>
    cases this
    cases caused
    have queues := queues_runs earlier
    have served := queues.served.length_le
    rw [List.length_map, length_of_scanning earlier scanning] at served
    exact ⟨by simp only [queues.tickets]; omega, sighting, rfl⟩
  | _ => cases this

/-- Without a shutdown and without a deadline that overflows, the worker does not leave its loop. -/
theorem isRunning_of_undisturbed (runs : Runs (.start catalogue dispatcher requestSlots) trace state)
    (unasked : ∀ client, .call client .shutdown ∉ trace) (fits : ∀ envelope reading, .overflow envelope reading ∉ trace) :
    state.phase.isRunning = true := by
  induction runs with
  | start => rfl
  | @next trace state next event runs happens ih =>
    have running := ih (fun client member => unasked client (List.mem_append_left _ member))
      fun envelope reading member => fits envelope reading (List.mem_append_left _ member)
    cases happens with
    | take | serve | trigger | emit | lose | rest => rfl
    | overflow => exact absurd (List.mem_append_right _ (List.mem_singleton_self _)) (fits _ _)
    | @stop envelope executing shutdown =>
      -- The command that ends the loop was accepted, so some client has called for it.
      have member : envelope ∈ accepted trace := by simp [(queues_runs runs).pending running, executing, Phase.inHand]
      cases origin : envelope.origin with
      | scan cause =>
        obtain ⟨_, sighting, same⟩ := cause_lt_ticket runs member origin
        simp [shutdown, Command.ofSighting] at same
      | client client =>
        have sent : .shutdown ∈ issued client trace := by
          rw [issued_eq runs running client, List.mem_append, List.mem_filterMap]
          exact .inl ⟨envelope, member, by simp [Envelope.of?, origin, shutdown]⟩
        obtain ⟨event, inside, this⟩ := List.mem_filterMap.mp sent
        cases event with
        | call caller command =>
          simp only [Option.ite_none_right_eq_some, Option.some.injEq] at this
          obtain ⟨rfl, rfl⟩ := this
          exact absurd (List.mem_append_left _ inside) (unasked caller)
        | _ => cases this
    | close leaving => simp [leaving, Phase.isRunning] at running
    | hangUp closed => simp [closed, Phase.isRunning] at running
    | _ => exact running

/-! ## Calls that have returned -/

/-- While the worker runs no call fails. A request that is no query just returns, and a query returns the answer that it had
when it was served. -/
theorem result_of_returned (runs : Runs (.start catalogue dispatcher requestSlots) trace state)
    (running : state.phase.isRunning = true) {client : ι} {ticket : Option Nat} {result : Returned}
    (returned : .returned client ticket result ∈ trace) :
    ∃ number request, ticket = some number ∧ ⟨number, .client client, .request request⟩ ∈ accepted trace ∧
      (request.isQuery = false ∧ result = .done ∨
        ∃ execution records, (executions trace)[number]? = some execution ∧
          execution.step.answer = some records ∧ result = .records records) := by
  obtain ⟨before, after, rfl⟩ := List.append_of_mem returned
  obtain ⟨past, following, earlier, happens, kept⟩ := runs.of_split
  have now := kept running
  cases happens with
  | refuse _ closed =>
    have receiving := isReceiving_of_isRunning earlier now
    rw [closed] at receiving
    cases receiving
  | @finish _ number command _ sent returns =>
    have member := accepted_of_sent earlier sent
    have member : ⟨number, .client client, command⟩ ∈ accepted (before ++ .returned client (some number) result :: after) := by
      rw [accepted_append]
      exact List.mem_append_left _ member
    cases returns with
    | told other => exact ⟨number, _, rfl, member, .inl ⟨other, rfl⟩⟩
    | @answered request records _ reply =>
      rw [replies_eq earlier number, Option.bind_eq_some_iff] at reply
      obtain ⟨execution, served, answer⟩ := reply
      refine ⟨number, request, rfl, member, .inr ⟨execution, records, ?_, answer, rfl⟩⟩
      rw [executions_append, List.getElem?_append_left (List.getElem?_eq_some_iff.mp served).1, served]
    | unanswered _ ended | joined ended | broken ended => simp [State.withCall, ended, Phase.isRunning] at now

/-- Of two calls, one of which has returned when the other is made, the first has the lower ticket. -/
theorem lt_ticket_of_returned {before after : List (Event ι)}
    (runs : Runs (.start catalogue dispatcher requestSlots) (before ++ after) state)
    (running : state.phase.isRunning = true) {client : ι} {ticket : Nat} {result : Returned}
    (returned : .returned client (some ticket) result ∈ before) {envelope : Envelope ι}
    (member : envelope ∈ accepted after) : ticket < envelope.ticket := by
  obtain ⟨past, earlier, kept⟩ := runs.of_append
  obtain ⟨number, request, same, inside, _⟩ := result_of_returned earlier (kept running) returned
  cases same
  -- The one has been accepted by now, and the other gets its place behind all that have been.
  obtain ⟨front, back, split⟩ := List.append_of_mem inside
  have first := (queues_runs earlier).ticket_of_split split
  obtain ⟨between, rest, later⟩ := List.append_of_mem member
  have whole : accepted (before ++ after) = (accepted before ++ between) ++ envelope :: rest := by
    rw [accepted_append, later, List.append_assoc]
  have second := (queues_runs runs).ticket_of_split whole
  simp only [split, List.length_append, List.length_cons] at first second
  omega

/-- The worker and its clients do what a catalogue does that serves the accepted commands alone, in the order of their
tickets, and triggers the scans that are due after each. -/
structure Serial (start : Catalogue) (trace : List (Event ι)) (state : State ι δ) : Prop where
  /-- Every command is served once, in the order in which the queue accepts it, or is still in hand or waiting. -/
  queue : accepted trace = (executions trace).map (·.envelope) ++ (state.phase.inHand ++ state.commands.waiting)
  /-- Whoever sends it, a command is placed behind all that were accepted before. -/
  placed : ∀ before envelope after, trace = before ++ .accept envelope :: after →
    envelope.ticket = (accepted before).length
  /-- Every request is served, and answered, as the catalogue on its own does it after those before. -/
  steps : ∀ earlier execution later, executions trace = earlier ++ execution :: later →
    execution.envelope.ticket = earlier.length ∧ execution.envelope.command = .request execution.request ∧
    (start.run (turns earlier)).catalogue.handle execution.reading execution.request = .ok execution.step
  /-- The stores and the published fingerprint. -/
  catalogue : state.catalogue = (start.run (turns (executions trace))).catalogue
  changes : announced trace = (start.run (turns (executions trace))).changes
  scans : triggered trace ++ state.phase.due = (start.run (turns (executions trace))).scans
  /-- The calls of a client take effect in the order in which it makes them, each once. -/
  program : ∀ client,
    issued client trace = (accepted trace).filterMap (·.of? client) ++ (state.calls client).unsent
  /-- A query returns the answer that it was served with. -/
  returns : ∀ client ticket result, .returned client ticket result ∈ trace →
    ∃ number request, ticket = some number ∧ ⟨number, .client client, .request request⟩ ∈ accepted trace ∧
      (request.isQuery = false ∧ result = .done ∨
        ∃ execution records, (executions trace)[number]? = some execution ∧
          execution.step.answer = some records ∧ result = .records records)
  /-- What has returned when a command is accepted has been served before it. -/
  reflects : ∀ before after client ticket result, trace = before ++ after →
    .returned client (some ticket) result ∈ before → ∀ earlier execution later,
    executions trace = earlier ++ execution :: later → execution.envelope ∈ accepted after →
    ∃ other ∈ earlier, other.envelope.ticket = ticket
  /-- What the scans find that a request causes is served after it. -/
  unaffected : ∀ earlier execution later, executions trace = earlier ++ execution :: later →
    ∀ other ∈ earlier, other.envelope.origin ≠ .scan execution.envelope.ticket

/-- However the calls of any number of clients, the scans and the worker interleave, everything that they see is as if a
catalogue had served the commands one after the other in the order of the queue. -/
theorem calls_take_effect_in_queue_order (runs : Runs (.start catalogue dispatcher requestSlots) trace state)
    (unasked : ∀ client, .call client .shutdown ∉ trace)
    (fits : ∀ envelope reading, .overflow envelope reading ∉ trace) : Serial catalogue trace state := by
  have running := isRunning_of_undisturbed runs unasked fits
  have queues := queues_runs runs
  have serves := serves_runs runs
  exact {
    queue := queues.pending running
    placed := fun before envelope after split => ticket_of_accept (split ▸ runs)
    steps := fun earlier execution later split =>
      ⟨queues.ticket_of_execution split, serves.steps earlier execution later split⟩
    catalogue := serves.catalogue
    changes := serves.changes
    scans := serves.scans
    program := issued_eq runs running
    returns := fun _ _ _ returned => result_of_returned runs running returned
    reflects := fun before after client ticket result split returned earlier execution later served member => by
      have first := lt_ticket_of_returned (split ▸ runs) running returned member
      rw [queues.ticket_of_execution served] at first
      exact queues.exists_of_lt served first
    unaffected := fun earlier execution later served other member caused => by
      have inside : other.envelope ∈ accepted trace :=
        queues.served.subset (List.mem_map_of_mem (by simp [served, member]))
      have later := (cause_lt_ticket runs inside caused).1
      have first := queues.lt_of_mem served member
      rw [queues.ticket_of_execution served] at later
      omega }

/-- Two clients of a host with one board: while the first asks for the boards the second asks for the sessions, and both
are ahead of the board that the scan finds. -/
theorem calls_take_effect_in_queue_order_scanning :
    let device : Backend := .adalight ⟨.default, none⟩
    let start : State Bool Backend :=
      .start (.empty Sighting.defaultWindow) ⟨Backend.registry, .null, .running device⟩ 16
    ∃ trace state, Runs start trace state ∧ (accepted trace).map (·.command) =
        [.request (.services .serial), .request .sessions, .ofSighting ⟨.esp32s2, "/dev/ttyUSB0", 0, "", true⟩] ∧
      Serial (.empty Sighting.defaultWindow) trace state := by
  intro device start
  let board : Serial.Port := ⟨"/dev/ttyUSB0", .usb ⟨0x303a, 1, none, none⟩⟩
  let host : Host := ⟨.listed [board], fun _ => .error "busy", fun _ => .ok ()⟩
  let reading : Reading := ⟨fun _ => ⟨0, 0, by decide, by decide⟩, .readable []⟩
  have runs : Runs start [] start := .start
  have runs := runs.next (.call rfl : Happens _ (.call false (.request (.services .serial))) _)
  have runs := runs.next (.enter rfl rfl : Happens _ (.accept ⟨0, .client false, .request (.services .serial)⟩) _)
  have runs := runs.next (.take rfl rfl)
  have runs := runs.next (.call rfl : Happens _ (.call true (.request .sessions)) _)
  have runs := runs.next (.serve rfl rfl rfl : Happens _ (.serve ⟨_, _, reading, _⟩) _)
  have runs := runs.next (.enter rfl rfl : Happens _ (.accept ⟨1, .client true, .request .sessions⟩) _)
  have scanned : start.dispatcher.trigger start.requests host .serial = _ := rfl
  have runs := runs.next (.trigger rfl scanned)
  have runs := runs.next (.emit rfl rfl)
  exact ⟨_, _, runs, rfl, calls_take_effect_in_queue_order runs (by simp) (by simp)⟩

end Discovery.Clients
