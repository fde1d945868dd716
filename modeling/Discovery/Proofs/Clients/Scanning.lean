import Discovery.Proofs.Clients.Merging
import Discovery.Proofs.Clients.Resting
import Discovery.Proofs.Service.AtRest
/-!
# The course of a scan

The worker runs a scan while it executes the request that has led to it, so it takes nothing out of its queue before it has
put into it what the scan finds. Of that the queue holds as many as it has slots, and the others are lost.
-/
namespace Discovery

open Time (Span)

/-! ## Requests that lead to a scan -/

/-- The request leads to a scan of serial ports. -/
def Request.ScansSerial : Request → Prop
  | services category => category.scanTarget = some .serial
  | scan category => category = .serial
  | scanAll => True
  | sighting _ | sessions | everything | cleanUpAll => False

/-- The scan of serial ports is the last of those that the request leads to. -/
theorem Catalogue.exists_due {catalogue : Catalogue} (idle : catalogue.pending = []) {request : Request}
    (scans : request.ScansSerial) {reading : Reading} {step : Step} (handled : catalogue.handle reading request = .ok step) :
    ∃ others, step.scans ++ step.catalogue.runPending.scans = others ++ [.serial] ∧ .serial ∉ others := by
  cases request with
  | sighting | sessions | everything | cleanUpAll => exact scans.elim
  | scan category =>
    cases handled
    have only : category = .serial := scans
    exact ⟨[], by simp [Catalogue.idle, triggered, runPending, only, idle], List.not_mem_nil⟩
  | services category =>
    cases handled
    have target : category.scanTarget = some .serial := scans
    obtain ⟨silent, kept⟩ := quiet_cleanUp catalogue (reading.clock category) category
    rw [idle] at kept
    refine ⟨[], ?_, List.not_mem_nil⟩
    simp [Catalogue.services, Step.andThen, Catalogue.idle, runPending, target, queueScan, silent, kept, triggered]
  | scanAll =>
    simp only [handle, Except.ok.injEq] at handled
    subst handled
    obtain ⟨silent, kept⟩ := quiet_cleanUpAll catalogue reading.clock
    rw [idle] at kept
    have targets : scanTargets = [.hyperhdr, .wled, .hue, .serial] := by decide
    refine ⟨[.hyperhdr, .wled, .hue], ?_, by decide⟩
    simp [Catalogue.scanAll, Step.andThen, Catalogue.idle, runPending, targets, queueScan, silent, kept, triggered]

namespace Clients

section
variable {ι δ : Type} [DecidableEq ι] [Device δ]
variable {state next : State ι δ} {event : Event ι} {trace : List (Event ι)}
variable {catalogue : Catalogue} {dispatcher : Dispatcher δ} {requestSlots : Nat} {host : Host}

/-! ## The course of a scan -/

/-- How far a request and its scan have got: what has been served, what the worker is at, and what it has reported of what
there is to find. -/
inductive Stage (found : List Sighting) : List (Execution ι) → Phase ι → List Sighting → Prop
  | waiting : Stage found [] .receiving []
  | asked {envelope : Envelope ι} : Stage found [] (.executing envelope) []
  | triggering {first : Execution ι} {cause : Nat} {due others : List Category} : due = others ++ [.serial] →
      .serial ∉ others → Stage found [first] (.scanning cause [] due) []
  | reporting {first : Execution ι} {cause : Nat} {reported rest : List Sighting} : reported ++ rest = found →
      Stage found [first] (.scanning cause rest []) reported
  | merging {first : Execution ι} {merged : List (Execution ι)} {phase : Phase ι} : phase.isRunning = true →
      phase.found = [] → phase.due = [] → Stage found (first :: merged) phase found

namespace Stage

variable {ι : Type} {found reported left : List Sighting} {served : List (Execution ι)} {phase : Phase ι} {cause : Nat}
  {category : Category} {due : List Category} {sighting : Sighting}

theorem isRunning (stage : Stage found served phase reported) : phase.isRunning = true := by
  cases stage with
  | merging running => exact running
  | _ => rfl

theorem take (stage : Stage found served .receiving reported) (envelope : Envelope ι) :
    Stage found served (.executing envelope) reported := by
  cases stage with
  | waiting => exact .asked
  | merging => exact .merging rfl rfl rfl

theorem trigger (stage : Stage found served (.scanning cause [] (category :: due)) reported) :
    Stage found served (.scanning cause (if category = .serial then found else []) due) reported := by
  cases stage with
  | merging _ _ none => cases none
  | @triggering _ _ _ others split apart =>
    cases others with
    | nil =>
      cases split
      rw [if_pos rfl]
      exact .reporting (List.nil_append found)
    | cons other rest =>
      cases split
      have different : category ≠ .serial := by
        rintro rfl
        exact apart List.mem_cons_self
      rw [if_neg different]
      exact .triggering rfl fun member => apart (List.mem_cons_of_mem _ member)

theorem report (stage : Stage found served (.scanning cause (sighting :: left) due) reported) :
    Stage found served (.scanning cause left due) (reported ++ [sighting]) := by
  cases stage with
  | merging _ none => cases none
  | reporting whole => exact .reporting (by simpa using whole)

theorem exists_only (stage : Stage found served (.scanning cause (sighting :: left) due) reported) :
    ∃ first, served = [first] := by
  cases stage with
  | merging _ none => cases none
  | reporting => exact ⟨_, rfl⟩

theorem rest (stage : Stage found served (.scanning cause [] []) reported) : Stage found served .receiving reported := by
  cases stage with
  | triggering split => simp at split
  | reporting whole =>
    rw [List.append_nil] at whole
    subst whole
    exact .merging rfl rfl rfl
  | merging => exact .merging rfl rfl rfl

end Stage

/-- The queue has accepted the request and, of what has been reported, as many as it has slots. The others are lost. -/
structure Ledger (request : Request) (reported : List Sighting) (trace : List (Event ι)) : Prop where
  told : (accepted trace).map (·.command) = .request request :: (reported.take Worker.slots).map .ofSighting
  lost : losses trace = reported.drop Worker.slots

namespace Ledger

variable {request : Request} {reported : List Sighting} {sighting : Sighting}

omit [DecidableEq ι] in
theorem silent (ledger : Ledger request reported trace) (unaccepted : accepted [event] = [])
    (unlost : losses [event] = []) : Ledger request reported (trace ++ [event]) where
  told := by rw [accepted_append, unaccepted, List.append_nil, ledger.told]
  lost := by rw [losses_append, unlost, List.append_nil, ledger.lost]

omit [DecidableEq ι] in
theorem accept (ledger : Ledger request reported trace) (room : reported.length < Worker.slots)
    (entered : (accepted [event]).map (·.command) = [.ofSighting sighting]) (unlost : losses [event] = []) :
    Ledger request (reported ++ [sighting]) (trace ++ [event]) := by
  have still : (reported ++ [sighting]).length ≤ Worker.slots := by
    rw [List.length_append]
    exact room
  constructor
  · rw [accepted_append, List.map_append, ledger.told, entered, List.take_of_length_le room.le, List.take_of_length_le still,
      List.map_append, List.cons_append, List.map_singleton]
  · rw [losses_append, ledger.lost, unlost, List.drop_of_length_le room.le, List.drop_of_length_le still, List.append_nil]

omit [DecidableEq ι] in
theorem lose (ledger : Ledger request reported trace) (full : Worker.slots ≤ reported.length)
    (unaccepted : accepted [event] = []) (dropped : losses [event] = [sighting]) :
    Ledger request (reported ++ [sighting]) (trace ++ [event]) where
  told := by rw [accepted_append, unaccepted, List.append_nil, List.take_append_of_le_length full, ledger.told]
  lost := by rw [losses_append, dropped, List.drop_append_of_le_length full, ledger.lost]

end Ledger

/-- How far the scan has got, and how the queue has taken it. -/
structure Course (request : Request) (found reported : List Sighting) (trace : List (Event ι)) (state : State ι δ) :
    Prop where
  unsent : state.Unsent
  books : accepted trace = (executions trace).map (·.envelope) ++ (state.phase.inHand ++ state.commands.waiting)
  ledger : Ledger request reported trace
  stage : Stage found (executions trace) state.phase reported

namespace Course

variable {request : Request} {found reported : List Sighting}

omit [DecidableEq ι] [Device δ] in
theorem lasting (course : Course request found reported trace state) : state.Lasting := by
  refine ⟨course.stage.isRunning, fun envelope member => ?_⟩
  have told : envelope.command ∈ Command.request request :: (reported.take Worker.slots).map .ofSighting := by
    rw [← course.ledger.told, course.books]
    exact List.mem_map_of_mem (List.mem_append_right _ member)
  rcases List.mem_cons.mp told with asked | seen
  · rw [asked]
    exact Command.noConfusion
  · obtain ⟨sighting, _, same⟩ := List.mem_map.mp seen
    rw [← same]
    exact Command.noConfusion

omit [DecidableEq ι] [Device δ] in
/-- What is in hand is the request itself, or else something that its scan has found. -/
theorem of_executing (course : Course request found reported trace state) {envelope : Envelope ι}
    (executing : state.phase = .executing envelope) :
    (executions trace = [] ∧ reported = [] ∧ envelope.command = .request request) ∨
      ∃ first merged sighting, executions trace = first :: merged ∧ reported = found ∧
        envelope.command = .ofSighting sighting := by
  obtain ⟨_, books, ⟨told, _⟩, stage⟩ := course
  rw [books, executing] at told
  rw [executing] at stage
  generalize executions trace = served at stage told ⊢
  cases stage with
  | asked => exact .inl ⟨rfl, rfl, (List.cons.inj told).1⟩
  | @merging first merged =>
    -- The request has been served first, so this is one of the others.
    have others := (List.cons.inj told).2
    have member : envelope.command ∈ (found.take Worker.slots).map Command.ofSighting := by
      rw [← others]
      simp [Phase.inHand]
    obtain ⟨sighting, _, same⟩ := List.mem_map.mp member
    exact .inr ⟨first, merged, sighting, rfl, rfl, same.symm⟩

omit [DecidableEq ι] [Device δ] in
/-- While the scan reports, nothing but what it has reported is waiting. -/
theorem length_waiting (course : Course request found reported trace state) {cause : Nat} {sighting : Sighting}
    {rest : List Sighting} {due : List Category} (scanning : state.phase = .scanning cause (sighting :: rest) due) :
    state.commands.waiting.length = min Worker.slots reported.length := by
  obtain ⟨_, books, ⟨told, _⟩, stage⟩ := course
  rw [scanning] at stage books
  -- Only the request has been served, and it is no longer in the queue.
  obtain ⟨first, only⟩ := stage.exists_only
  have lengths := congrArg List.length told
  rw [books, only] at lengths
  simp [Phase.inHand] at lengths
  omega

end Course

/-- The worker has its queue, has taken up the scans that were due, and a scan of serial ports finds this on the host. -/
structure Equipped (host : Host) (found : List Sighting) (state : State ι δ) : Prop where
  pending : state.catalogue.pending = []
  capacity : state.commands.capacity = Worker.slots
  receiving : state.commands.receiving = true
  finds : ∀ category, (state.dispatcher.trigger state.requests host category).effects.sightings =
    if category = .serial then found else []

omit [DecidableEq ι] [Device δ] in
theorem length_lt_of_send {α : Type} {channel sent : Channel α} {message : α} (accepted : channel.send message = .ok sent) :
    channel.waiting.length < channel.capacity :=
  (Channel.send_eq_ok_iff.mp accepted).1.2

omit [DecidableEq ι] [Device δ] in
theorem capacity_le_of_send {α : Type} {channel : Channel α} {message : α} {error : SendError}
    (receiving : channel.receiving = true) (refused : channel.send message = .error error) :
    channel.capacity ≤ channel.waiting.length := by
  refine Nat.le_of_not_lt fun room => ?_
  have accepted : ∃ sent, channel.send message = .ok sent := ⟨_, Channel.send_eq_ok_iff.mpr ⟨⟨receiving, room⟩, rfl⟩⟩
  simp [refused] at accepted

namespace Course

variable {request : Request} {found reported : List Sighting}

omit [DecidableEq ι] in
theorem room (course : Course request found reported trace state) (equipped : Equipped host found state) {cause : Nat}
    {sighting : Sighting} {rest : List Sighting} {due : List Category}
    (scanning : state.phase = .scanning cause (sighting :: rest) due) {envelope : Envelope ι}
    {commands : Channel (Envelope ι)} (sent : state.commands.send envelope = .ok commands) :
    reported.length < Worker.slots := by
  have room := length_lt_of_send sent
  rw [course.length_waiting scanning, equipped.capacity] at room
  omega

omit [DecidableEq ι] in
/-- Nobody else is at the queue, so a sighting is lost only when the scan itself has filled it. -/
theorem full (course : Course request found reported trace state) (equipped : Equipped host found state) {cause : Nat}
    {sighting : Sighting} {rest : List Sighting} {due : List Category}
    (scanning : state.phase = .scanning cause (sighting :: rest) due) {envelope : Envelope ι}
    (crowded : state.Crowded envelope) : Worker.slots ≤ reported.length := by
  rcases crowded with ⟨error, refused⟩ | ⟨client, command, sending⟩
  · have full := capacity_le_of_send equipped.receiving refused
    rw [course.length_waiting scanning, equipped.capacity] at full
    omega
  · exact absurd sending course.unsent.of_sending

omit [DecidableEq ι] in
/-- The request itself makes its scans due, and a sighting that is merged makes none due. -/
theorem stage_of_serve (course : Course request found reported trace state) (equipped : Equipped host found state)
    (scans : request.ScansSerial) {envelope : Envelope ι} {asked : Request} {reading : Reading} {step : Step}
    (executing : state.phase = .executing envelope) (command : envelope.command = .request asked)
    (handled : state.catalogue.handle reading asked = .ok step) :
    Stage found (executions trace ++ [⟨envelope, asked, reading, step⟩]) (state.serving envelope.ticket step).phase
      reported := by
  rcases course.of_executing executing with ⟨none, rfl, first⟩ | ⟨first, merged, sighting, split, rfl, seen⟩
  · rw [first] at command
    cases command
    obtain ⟨others, due, apart⟩ := Catalogue.exists_due equipped.pending scans handled
    rw [none]
    exact .triggering due apart
  · rw [seen] at command
    cases command
    obtain ⟨none, kept⟩ := Worker.scans_of_sighting handled
    rw [split]
    refine .merging rfl rfl ?_
    simp [State.serving, Phase.due, none, Catalogue.runPending, kept, equipped.pending]

/-- Each event takes the scan one stage further or leaves it where it is. -/
theorem advance (course : Course request found reported trace state) (equipped : Equipped host found state)
    (scans : request.ScansSerial) (undisturbed : Undisturbed host state event next) :
    ∃ later, Ledger request later (trace ++ [event]) ∧ Stage found (executions (trace ++ [event])) next.phase later := by
  have ledger := course.ledger
  have stage := course.stage
  rw [executions_append]
  have silent (unaccepted : accepted [event] = []) (unlost : losses [event] = [])
      (stage : Stage found (executions trace ++ executions [event]) next.phase reported) :
      ∃ later, Ledger request later (trace ++ [event]) ∧
        Stage found (executions trace ++ executions [event]) next.phase later :=
    ⟨reported, ledger.silent unaccepted unlost, stage⟩
  rw [← List.append_nil (executions trace)] at stage
  cases own : event.isOwn with
  | false =>
    -- With no client about to send, only the worker itself puts anything into its queue.
    obtain ⟨phase, _, unaccepted, unserved, unlost⟩ := undisturbed.worker_of_foreign course.unsent own
    rw [← phase, ← unserved] at stage
    exact silent unaccepted unlost stage
  | true =>
    cases undisturbed.happens with
    | call | shutdown | pass | enter | refuse | finish | browse | browserLeaves => cases own
    | overflow => exact absurd rfl (undisturbed.fits _ _)
    | stop phase shutdown => exact absurd shutdown (course.lasting.requests _ (by simp [phase, Phase.inHand]))
    | close phase | hangUp phase =>
      rw [phase] at stage
      cases stage.isRunning
    | @take envelope _ phase =>
      rw [phase] at stage
      exact silent rfl rfl (stage.take envelope)
    | rest phase =>
      rw [phase] at stage
      exact silent rfl rfl stage.rest
    | @trigger cause category due _ done phase =>
      obtain ⟨_, same⟩ := undisturbed.onHost cause category done.calls rfl
      rw [phase] at stage
      have further := stage.trigger
      obtain ⟨_, sightings, rfl⟩ := Phase.scanning.inj (congrArg State.phase same)
      rw [← equipped.finds category, ← sightings] at further
      exact silent rfl rfl further
    | serve phase command handled => exact silent rfl rfl (course.stage_of_serve equipped scans phase command handled)
    | @emit _ sighting _ _ _ phase sent =>
      have room := course.room equipped phase sent
      rw [phase] at stage
      exact ⟨reported ++ [sighting], ledger.accept room rfl rfl, stage.report⟩
    | @lose _ sighting _ _ phase crowded =>
      have full := course.full equipped phase crowded
      rw [phase] at stage
      exact ⟨reported ++ [sighting], ledger.lose full rfl rfl, stage.report⟩

theorem undisturbed (course : Course request found reported trace state) (equipped : Equipped host found state)
    (scans : request.ScansSerial) (undisturbed : Undisturbed host state event next) :
    ∃ later, Course request found later (trace ++ [event]) next := by
  obtain ⟨later, ledger, stage⟩ := course.advance equipped scans undisturbed
  have books := undisturbed.happens.pending_append stage.isRunning course.books
  exact ⟨later, undisturbed.unsent course.unsent, books, ledger, stage⟩

/-- A scan that is over has merged what it has found as far as the queue could hold it, and has lost the others. -/
theorem of_rest (course : Course request found reported trace state) {start : State ι δ} (runs : Runs start trace state)
    (rest : state.AtRest) :
    (executions trace).map (·.request) = request :: (found.take Worker.slots).map .sighting ∧
      losses trace = found.drop Worker.slots := by
  obtain ⟨_, books, ⟨told, lost⟩, stage⟩ := course
  rw [rest.receiving, rest.unserved] at books
  rw [rest.receiving] at stage
  -- Nothing is left in the queue, so what has been accepted has been served.
  have commands : (executions trace).map (fun execution => Command.request execution.request) =
      (accepted trace).map (·.command) := by
    simp only [books, Phase.inHand, List.append_nil, List.map_map]
    exact List.map_congr_left fun execution member => (runs.command_of_mem member).symm
  rw [told] at commands
  generalize executions trace = served at stage commands ⊢
  cases stage with
  | waiting => cases commands
  | @merging first merged =>
    refine ⟨?_, lost⟩
    have requests : ((first :: merged).map (·.request)).map Command.request =
        (request :: (found.take Worker.slots).map .sighting).map Command.request := by
      rw [List.map_map]
      refine commands.trans ?_
      rw [List.map_cons, List.map_map]
      rfl
    exact List.map_injective_iff.mpr (fun _ _ => Command.request.inj) requests

end Course

/-! ## The call -/

/-- One client has called, and its command is the next that the queue accepts. -/
structure Sending (client : ι) (request : Request) (trace : List (Event ι)) (state : State ι δ) : Prop where
  sending : state.calls client = .sending (.request request)
  others : ∀ other, other ≠ client → (state.calls other).unsent = []
  receiving : state.phase = .receiving
  unserved : state.commands.waiting = []
  unmoved : accepted trace = [] ∧ executions trace = [] ∧ losses trace = []

namespace Sending

variable {client : ι} {request : Request}

theorem undisturbed (sending : Sending client request trace state) (receiving : state.commands.receiving = true)
    (undisturbed : Undisturbed host state event next) (found : List Sighting) :
    Sending client request (trace ++ [event]) next ∨ Course request found [] (trace ++ [event]) next := by
  obtain ⟨called, others, phase, unserved, unaccepted, unexecuted, unlost⟩ := sending
  have elsewhere {other : Phase ι} (at_ : state.phase = other) : .receiving = other := phase.symm.trans at_
  have still (silent : accepted [event] = [] ∧ executions [event] = [] ∧ losses [event] = []) :
      accepted (trace ++ [event]) = [] ∧ executions (trace ++ [event]) = [] ∧ losses (trace ++ [event]) = [] := by
    simp only [accepted_append, executions_append, losses_append, unaccepted, unexecuted, unlost, silent, List.append_nil,
      and_self]
  cases undisturbed.happens with
  | call | shutdown => exact absurd rfl (undisturbed.uncalled _ _)
  | take _ received => simp [Channel.receive?, unserved] at received
  | serve other | overflow other | stop other | trigger other | emit other | lose other | rest other | close other
  | hangUp other => cases elsewhere other
  | pass | browse | browserLeaves =>
    exact .inl ⟨called, others, phase, unserved, still ⟨rfl, rfl, rfl⟩⟩
  | refuse _ closed =>
    rw [receiving] at closed
    cases closed
  | @finish caller _ _ _ sent =>
    have different : client ≠ caller := by
      rintro rfl
      rw [called] at sent
      cases sent
    refine .inl ⟨by simp [different, called], fun other apart => ?_, phase, unserved, still ⟨rfl, rfl, rfl⟩⟩
    by_cases same : other = caller
    · simp [same, Calling.unsent]
    · simpa [same] using others other apart
  | @enter caller command commands entering sent =>
    have own : caller = client := by
      by_contra different
      have nothing := others caller different
      rw [entering] at nothing
      cases nothing
    subst own
    rw [called] at entering
    cases entering
    rw [eq_of_send sent, unserved]
    have first : accepted [Event.accept ⟨state.tickets, .client caller, .request request⟩] =
        [⟨state.tickets, .client caller, .request request⟩] := rfl
    refine .inr ⟨fun other => ?_, ?_, ⟨?_, ?_⟩, ?_⟩
    · by_cases same : other = caller
      · simp [State.accepting, same, Calling.unsent]
      · simpa [State.accepting, same] using others other same
    · rw [accepted_append, executions_append, unaccepted, unexecuted, first]
      simp [State.accepting, State.withCall, phase, Phase.inHand, executions]
    · rw [accepted_append, unaccepted, first]
      rfl
    · rw [losses_append, unlost]
      rfl
    · rw [executions_append, unexecuted]
      simp only [State.accepting, State.withCall, phase]
      exact .waiting

/-- Nothing keeps the queue from accepting the command. -/
theorem exists_course (sending : Sending client request trace state) (capacity : state.commands.capacity = Worker.slots)
    (receiving : state.commands.receiving = true) (host : Host) (found : List Sighting) :
    ∃ envelope next, Undisturbed host state (.accept envelope) next ∧
      Course request found [] (trace ++ [.accept envelope]) next := by
  let envelope : Envelope ι := ⟨state.tickets, .client client, .request request⟩
  have room : ¬ Worker.slots ≤ 0 := by decide
  have sent : state.commands.send envelope = .ok { state.commands with waiting := [envelope] } := by
    simp [Channel.send, receiving, capacity, sending.unserved, room]
  have undisturbed : Undisturbed host state (.accept envelope) _ :=
    ⟨.enter sending.sending sent, by simp, by simp, by simp⟩
  refine ⟨envelope, _, undisturbed, ?_⟩
  rcases sending.undisturbed receiving undisturbed found with still | course
  · have none := still.unmoved.1
    simp [accepted] at none
  · exact course

end Sending

end

end Clients

end Discovery
