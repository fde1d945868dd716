import Discovery.Proofs.Clients.Resting
import Discovery.Proofs.Clients.Shutdown
/-!
# Calls that only read

While a call gets on, nothing is touched but the queue and the call. Only when its request is served does anything else
happen, and if the request only reads nothing does even then. A call that fails has not been served and will not be.
-/
namespace Discovery

/-- The request is answered from what is held, and that is all. -/
def Request.onlyReads : Request → Bool
  | sessions | everything => true
  | sighting _ | services _ | scan _ | scanAll | cleanUpAll => false

/-- What only reads leaves the catalogue as it is and has nothing to announce or to trigger. -/
theorem Catalogue.handle_of_onlyReads (catalogue : Catalogue) (reading : Reading) {request : Request}
    (reads : request.onlyReads = true) : ∃ answer, catalogue.handle reading request = .ok { catalogue.idle with answer } := by
  cases request with
  | sessions | everything => exact ⟨_, rfl⟩
  | sighting | services | scan | scanAll | cleanUpAll => cases reads

namespace Clients

variable {ι δ : Type} [DecidableEq ι] [Device δ]

/-- Only the queue, the calls and the answers may have changed: all records and their deadlines, the fingerprint, the
scans that are due, what the browser is asked for and the backend are as they were. -/
structure State.Untouched (state next : State ι δ) : Prop where
  catalogue : next.catalogue = state.catalogue
  dispatcher : next.dispatcher = state.dispatcher
  requests : next.requests = state.requests
  due : next.phase.due = state.phase.due

/-- A client's call gets on, or the worker serves a request that only reads. -/
def Event.isQuiet : Event ι → Bool
  | .call .. | .pass _ | .accept ⟨_, .client _, _⟩ | .returned .. | .take _ => true
  | .serve execution => execution.request.onlyReads
  | _ => false

variable {window : Time.Span} {dispatcher : Dispatcher δ} {requestSlots : Nat} {trace : List (Event ι)}
  {state next : State ι δ} {event : Event ι}

omit [DecidableEq ι] [Device δ] in
/-- A request that only reads leaves nothing to be done after it, because nothing was left before. -/
theorem untouched_serving {envelope : Envelope ι} (executing : state.phase = .executing envelope)
    (idle : state.catalogue.pending = []) {reading : Reading} {request : Request} {step : Step}
    (handled : state.catalogue.handle reading request = .ok step) (reads : request.onlyReads = true) (ticket : Nat) :
    state.Untouched (state.serving ticket step) ∧ step.changes = [] := by
  have kept : { state.catalogue with pending := [] } = state.catalogue := by rw [← idle]
  obtain ⟨answer, served⟩ := state.catalogue.handle_of_onlyReads reading reads
  rw [served, Except.ok.injEq] at handled
  subst handled
  refine ⟨⟨kept, rfl, rfl, ?_⟩, rfl⟩
  simp [State.serving, Catalogue.idle, Catalogue.runPending, Phase.due, executing, idle]

theorem Happens.untouched (runs : Runs (.start (.empty window) dispatcher requestSlots) trace state)
    (happens : Happens state event next) (quiet : event.isQuiet = true) :
    state.Untouched next ∧ announced [event] = [] := by
  cases happens with
  | call | shutdown | pass | enter | refuse | finish => exact ⟨⟨rfl, rfl, rfl, rfl⟩, rfl⟩
  | take receiving =>
    refine ⟨⟨rfl, rfl, rfl, ?_⟩, rfl⟩
    rw [receiving]
    rfl
  | serve executing _ handled =>
    obtain ⟨untouched, silent⟩ := untouched_serving executing (pending_runs runs) handled quiet _
    exact ⟨untouched, by simpa [announced, executions] using silent⟩
  | overflow | stop | trigger | emit | lose | rest | close | hangUp | browse | browserLeaves => cases quiet

/-- A request whose call returns a failure has not been served: it never got into the queue, or the worker ended before
its turn. -/
theorem unserved_of_failed (runs : Runs (.start (.empty window) dispatcher requestSlots) trace state) {client : ι}
    {ticket : Option Nat} (unjoined : ∀ number, state.calls client ≠ .sent number .shutdown)
    (happens : Happens state (.returned client ticket .failed) next) :
    ∀ execution ∈ executions trace, some execution.envelope.ticket ≠ ticket := by
  intro execution member same
  cases happens with
  | refuse => cases same
  | @finish _ ticket _ _ sent returns =>
    cases returns with
    | broken => exact unjoined _ sent
    | unanswered query ended reply =>
      -- Had the request been served it would have been answered, as every query is.
      obtain ⟨earlier, behind, split⟩ := List.append_of_mem member
      have place := (queues_runs runs).ticket_of_execution split
      have given : execution.envelope.ticket = ticket := Option.some.inj same
      have served : (executions trace)[ticket]? = some execution := by
        rw [← given, place, split]
        simp
      have accepted : execution.envelope ∈ accepted trace :=
        (queues_runs runs).served.subset (List.mem_map_of_mem member)
      have envelope : execution.envelope = ⟨ticket, .client client, _⟩ :=
        envelope_of_sent (by rwa [List.append_nil]) runs sent (by rwa [List.append_nil]) given
      obtain ⟨asked, handled⟩ := (serves_runs runs).steps _ _ _ split
      rw [envelope] at asked
      cases asked
      rw [replies_eq runs, served, Option.bind_some] at reply
      have answered := isSome_answer handled
      rw [reply, query] at answered
      cases answered

end Clients

end Discovery
