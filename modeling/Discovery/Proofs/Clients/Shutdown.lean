import Discovery.Proofs.Clients.Ending
/-!
# Shutting down among other calls

Of all calls that ask for a shutdown one owns the worker: it sends the only command to shut down there ever is and waits for
the worker to end, while all others return at once. The place of that command in the queue decides about every other one:
what is before it is served as if there were no shutdown, what is behind it never has any effect, and a query is answered or
fails accordingly.
-/
namespace Discovery.Clients

open Time (Span)

variable {ι δ : Type} [DecidableEq ι] [Device δ]
variable {state past next : State ι δ} {event : Event ι} {trace later : List (Event ι)}
variable {catalogue : Catalogue} {dispatcher : Dispatcher δ} {requestSlots : Nat}

/-! ## The call that owns the worker -/

def shutdowns (trace : List (Event ι)) : Nat := (accepted trace).countP (·.command = .shutdown)

omit [DecidableEq ι] in
@[simp] theorem shutdowns_append (trace later : List (Event ι)) :
    shutdowns (trace ++ later) = shutdowns trace + shutdowns later := by
  simp [shutdowns]

/-- One call asks for the shutdown: it waits for its command to be accepted, or that is the one that has been. -/
structure Asked (trace : List (Event ι)) (state : State ι δ) : Prop where
  once : shutdowns trace ≤ 1
  unasked : state.joined = false → shutdowns trace = 0 ∧ ∀ client, state.calls client ≠ .sending .shutdown
  sending : ∀ client, state.calls client = .sending .shutdown →
    shutdowns trace = 0 ∧ ∀ other, state.calls other = .sending .shutdown → other = client

/-- Only a call for a shutdown that is the first and the acceptance of its command change who asks for it. -/
theorem Happens.asks (happens : Happens state event next) :
    (shutdowns [event] = 0 ∧ next.joined = state.joined ∧
      ∀ client, next.calls client = .sending .shutdown → state.calls client = .sending .shutdown) ∨
    (∃ caller, shutdowns [event] = 0 ∧ state.joined = false ∧ next.joined = true ∧
      ∀ client, next.calls client = .sending .shutdown → client = caller ∨ state.calls client = .sending .shutdown) ∨
    ∃ caller, shutdowns [event] = 1 ∧ state.calls caller = .sending .shutdown ∧ next.joined = state.joined ∧
      ∀ client, next.calls client = .sending .shutdown → client ≠ caller ∧ state.calls client = .sending .shutdown := by
  -- A client whose call is no call for a shutdown is not sending one.
  have others (caller : ι) (calling : Calling) (other : calling ≠ .sending .shutdown) (client : ι)
      (sending : (state.withCall caller calling).calls client = .sending .shutdown) :
      client ≠ caller ∧ state.calls client = .sending .shutdown := by
    by_cases same : client = caller
    · exact absurd (by simpa [same] using sending) other
    · exact ⟨same, by simpa [same] using sending⟩
  cases happens with
  | @shutdown caller _ unjoined =>
    refine .inr (.inl ⟨caller, rfl, unjoined, rfl, fun client sending => ?_⟩)
    by_cases same : client = caller
    · exact .inl same
    · exact .inr (by simpa [same] using sending)
  | @enter caller command commands called =>
    have left := others caller (.sent state.tickets command) Calling.noConfusion
    by_cases shutdown : command = .shutdown
    · exact .inr (.inr ⟨caller, by simp [shutdowns, accepted, shutdown], shutdown ▸ called, rfl, left⟩)
    · exact .inl ⟨by simp [shutdowns, accepted, shutdown], rfl, fun client sending => (left client sending).2⟩
  | @call caller request =>
    exact .inl ⟨rfl, rfl, fun client sending => (others caller (.sending (.request request)) (by simp) client sending).2⟩
  | @refuse caller | @finish caller =>
    exact .inl ⟨rfl, rfl, fun client sending => (others caller .idle Calling.noConfusion client sending).2⟩
  | _ => exact .inl ⟨rfl, rfl, fun _ sending => sending⟩

theorem Asked.happens (asked : Asked trace state) (happens : Happens state event next) :
    Asked (trace ++ [event]) next := by
  obtain ⟨once, unasked, sending⟩ := asked
  rcases happens.asks with ⟨none, joined, calls⟩ | ⟨caller, none, unjoined, joined, calls⟩ | ⟨caller, one, called, joined, calls⟩
  · rw [← Nat.add_zero (shutdowns trace), ← none, ← shutdowns_append] at once
    refine ⟨once, fun unjoined => ?_, fun client waits => ?_⟩
    · obtain ⟨zero, silent⟩ := unasked (joined ▸ unjoined)
      exact ⟨by simp [zero, none], fun client waits => silent client (calls client waits)⟩
    · obtain ⟨zero, only⟩ := sending client (calls client waits)
      exact ⟨by simp [zero, none], fun other too => only other (calls other too)⟩
  · -- Before the first call for a shutdown nobody was sending one.
    obtain ⟨zero, silent⟩ := unasked unjoined
    have new (client : ι) (waits : next.calls client = .sending .shutdown) : client = caller :=
      (calls client waits).resolve_right (silent client)
    refine ⟨by simp [zero, none], by simp [joined], fun client waits => ⟨by simp [zero, none], fun other too => ?_⟩⟩
    rw [new client waits, new other too]
  · -- The call whose command is accepted was the only one that was sending one.
    obtain ⟨zero, only⟩ := sending caller called
    refine ⟨by simp [zero, one], fun unjoined => ?_, fun client waits => ?_⟩
    · exact absurd called ((unasked (joined ▸ unjoined)).2 caller)
    · obtain ⟨different, before⟩ := calls client waits
      exact absurd (only client before) different

theorem Runs.joined (runs : Runs past later next) (joined : past.joined = true) :
    next.joined = true ∧ ∀ client, .call client .shutdown ∉ later := by
  induction runs with
  | start => exact ⟨joined, by simp⟩
  | next _ happens ih =>
    obtain ⟨still, silent⟩ := ih
    cases happens with
    | shutdown _ unjoined =>
      -- Only the first call for a shutdown is more than a return.
      rw [still] at unjoined
      cases unjoined
    | _ => exact ⟨still, by simpa using silent⟩

/-! ## Before and behind the command -/

/-- The command of the ticket is not behind a command to shut down. -/
def Precedes (trace : List (Event ι)) (ticket : Nat) : Prop :=
  ∀ envelope ∈ accepted trace, envelope.command = .shutdown → ticket < envelope.ticket

omit [DecidableEq ι] [Device δ] in
theorem Queues.getElem?_of_mem (queues : Queues trace state) {envelope : Envelope ι} (member : envelope ∈ accepted trace) :
    (accepted trace)[envelope.ticket]? = some envelope := by
  obtain ⟨earlier, behind, split⟩ := List.append_of_mem member
  rw [queues.ticket_of_split split, split]
  simp

omit [DecidableEq ι] [Device δ] in
theorem Queues.getElem?_of_served (queues : Queues trace state) {ticket : Nat} {execution : Execution ι}
    (served : (executions trace)[ticket]? = some execution) : (accepted trace)[ticket]? = some execution.envelope := by
  obtain ⟨rest, behind⟩ := queues.served
  have inside : ticket < ((executions trace).map (·.envelope)).length := by
    rw [List.length_map]
    exact (List.getElem?_eq_some_iff.mp served).1
  rw [← behind, List.getElem?_append_left inside, List.getElem?_map, served]
  rfl

/-- The envelope of the ticket that a call waits with holds the command of that call, however long ago it was accepted. -/
theorem envelope_of_sent (runs : Runs (.start catalogue dispatcher requestSlots) (trace ++ later) state)
    (earlier : Runs (.start catalogue dispatcher requestSlots) trace past) {client : ι} {ticket : Nat} {command : Command}
    (sent : past.calls client = .sent ticket command) {envelope : Envelope ι} (member : envelope ∈ accepted (trace ++ later))
    (same : envelope.ticket = ticket) : envelope = ⟨ticket, .client client, command⟩ := by
  have queues := queues_runs runs
  have inside : ⟨ticket, .client client, command⟩ ∈ accepted (trace ++ later) := by
    rw [accepted_append]
    exact List.mem_append_left _ (accepted_of_sent earlier sent)
  -- The queue has given the ticket once, to what is at this place.
  have place := queues.getElem?_of_mem member
  rw [same, queues.getElem?_of_mem inside] at place
  exact (Option.some.inj place).symm

theorem precedes_of_served (runs : Runs (.start catalogue dispatcher requestSlots) trace state) {ticket : Nat}
    (served : ticket < (executions trace).length) : Precedes trace ticket := by
  intro envelope member shutdown
  by_contra behind
  -- Otherwise the command to shut down would be one of those that have been served.
  have inside : envelope.ticket < (executions trace).length := by omega
  have queues := queues_runs runs
  have same := queues.getElem?_of_served (List.getElem?_eq_getElem inside)
  rw [queues.getElem?_of_mem member, Option.some.injEq] at same
  exact request_of_executions runs (List.mem_map_of_mem (List.getElem_mem inside)) (same ▸ shutdown)

/-- What a query of a client has come to: it returns the answer it was served with if it precedes a shutdown, and fails if
it does not. -/
def Answers (trace : List (Event ι)) (envelope : Envelope ι) (result : Returned) : Prop :=
  (Precedes trace envelope.ticket ∧ ∃ execution records, (executions trace)[envelope.ticket]? = some execution ∧
    execution.envelope = envelope ∧ execution.step.answer = some records ∧ result = .records records) ∨
  (¬ Precedes trace envelope.ticket ∧ result = .failed)

/-- What comes later changes nothing about what has been served, and puts nothing before the shutdown. -/
theorem Answers.append {envelope : Envelope ι} {result : Returned} (answers : Answers trace envelope result)
    (runs : Runs (.start catalogue dispatcher requestSlots) (trace ++ later) state) :
    Answers (trace ++ later) envelope result := by
  rcases answers with ⟨_, execution, records, served, rest⟩ | ⟨behind, failed⟩
  · have inside := (List.getElem?_eq_some_iff.mp served).1
    have still : (executions (trace ++ later))[envelope.ticket]? = some execution := by
      rw [executions_append, List.getElem?_append_left inside, served]
    exact .inl ⟨precedes_of_served runs (List.getElem?_eq_some_iff.mp still).1, execution, records, still, rest⟩
  · refine .inr ⟨fun precedes => behind fun other member => precedes other ?_, failed⟩
    rw [accepted_append]
    exact List.mem_append_left _ member

/-- A command that is not accepted before the worker has ended is refused. -/
theorem Runs.refuses {failed : Bool} (runs : Runs past later next) (ended : past.phase = .ended failed)
    (closed : past.commands.receiving = false) {client : ι} (unsent : ∀ ticket command, past.calls client ≠ .sent ticket command) :
    (∀ ticket command, next.calls client ≠ .sent ticket command) ∧
      ∀ ticket result, .returned client ticket result ∈ later → ticket = none ∧ result = .failed := by
  induction runs with
  | start => exact ⟨unsent, by simp⟩
  | @next later state next event runs happens ih =>
    obtain ⟨still, refused⟩ := ih
    have shut := (runs.inert ended closed).closed
    cases happens with
    | enter _ sent | emit _ sent =>
      rw [receiving_of_sent sent] at shut
      cases shut
    | @call caller | @shutdown caller =>
      refine ⟨fun ticket command => ?_, by simpa using refused⟩
      by_cases same : client = caller
      · simp [same]
      · simpa [same] using still ticket command
    | @refuse caller =>
      refine ⟨fun ticket command => ?_, fun ticket result returned => ?_⟩
      · by_cases same : client = caller
        · simp [same]
        · simpa [same] using still ticket command
      · rcases List.mem_append.mp returned with earlier | latest
        · exact refused ticket result earlier
        · cases List.mem_singleton.mp latest
          exact ⟨rfl, rfl⟩
    | @finish caller _ _ _ sent =>
      have different : client ≠ caller := fun same => still _ _ (same ▸ sent)
      refine ⟨fun ticket command => by simpa [different] using still ticket command, fun ticket result returned => ?_⟩
      rcases List.mem_append.mp returned with earlier | latest
      · exact refused ticket result earlier
      · cases List.mem_singleton.mp latest
        exact absurd rfl different
    | _ => exact ⟨still, by simpa using refused⟩

end Discovery.Clients
