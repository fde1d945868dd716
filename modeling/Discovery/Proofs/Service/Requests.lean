import Discovery.Proofs.Clients.Reads
import Discovery.Proofs.Service.AtRest
import Discovery.Proofs.Service.Operations
/-!
# Requests over HTTP

A request for the records of a category, or for a scan, is the call of the worker that it stands for. All others only read,
and a request that fails has not got as far as a call, or its call has been refused.
-/
namespace Discovery

open Mdns (Wired WiredEvent)
open Time (Span)

namespace Http

/-- The request is for the endpoint, by a method that the endpoint takes. -/
def Request.Targets (request : Request) (endpoint : Endpoint) : Prop :=
  (splitTarget request.target).1 = endpoint.path ∧ endpoint.takes request.method = true

/-- The category that the request names, if it names one. -/
def Request.query (request : Request) : Except DecodeError (Option Category) :=
  queryCategory (splitTarget request.target).2

/-- The request is for everything, for the sessions, for the fingerprint or for the changes to come. -/
def Request.OnlyReads (request : Request) : Prop :=
  request.Targets .services ∧ request.query = .ok none ∨ request.Targets .sessions ∨ request.Targets .fingerprint ∨
    request.Targets .events

/-- The request to the worker that an action puts, if it puts one. -/
def Action.call? : Action → Option Discovery.Request
  | .services (some category) => some (.services category)
  | .services none => some .everything
  | .sessions => some .sessions
  | .scan none => some .scanAll
  | .scan (some category) => category.scanTarget.map .scan
  | .fingerprint | .events => none

theorem Endpoint.ofPath?_path (endpoint : Endpoint) : ofPath? endpoint.path = some endpoint := by
  cases endpoint <;> decide

theorem route_of_targets {request : Request} {endpoint : Endpoint} (targets : request.Targets endpoint) :
    route request = (endpoint.action (splitTarget request.target).2).mapError .badQuery := by
  have split : splitTarget request.target = (endpoint.path, (splitTarget request.target).2) :=
    Prod.ext targets.1 rfl
  rw [route, split]
  simp [Endpoint.ofPath?_path, targets.2]

theorem route_of_unknown {request : Request} (unknown : Endpoint.ofPath? (splitTarget request.target).1 = none) :
    route request = .error .notFound := by
  unfold route
  split
  next path query split =>
  rw [split] at unknown
  rw [unknown]

theorem route_of_services {request : Request} (targets : request.Targets .services) {category : Option Category}
    (named : request.query = .ok category) : route request = .ok (.services category) := by
  rw [route_of_targets targets, Endpoint.action, show queryCategory _ = _ from named]
  rfl

theorem route_of_scan {request : Request} (targets : request.Targets .scan) {category : Option Category}
    (named : request.query = .ok category) : route request = .ok (.scan category) := by
  rw [route_of_targets targets, Endpoint.action, show queryCategory _ = _ from named]
  rfl

/-- What only reads is answered without the worker or by a request that only reads. -/
theorem exists_route_of_onlyReads {request : Request} (reads : request.OnlyReads) :
    ∃ action, route request = .ok action ∧ ∀ asked ∈ action.call?, asked.onlyReads = true := by
  rcases reads with ⟨targets, unnamed⟩ | targets | targets | targets
  · exact ⟨_, route_of_services targets unnamed, by simp [Action.call?, Discovery.Request.onlyReads]⟩
  · exact ⟨.sessions, route_of_targets targets, by simp [Action.call?, Discovery.Request.onlyReads]⟩
  · exact ⟨.fingerprint, route_of_targets targets, by simp [Action.call?]⟩
  · exact ⟨.events, route_of_targets targets, by simp [Action.call?]⟩

/-- The target in which a client names a category is read as that category. -/
theorem targets_services_named (category : Category) :
    let request : Request := ⟨"GET", "/v1/services?category=" ++ category.name⟩
    request.Targets .services ∧ request.query = .ok (some category) := by
  cases category <;> exact ⟨⟨by decide +kernel, rfl⟩, by decide +kernel⟩

@[simp] theorem status_trim (request : Request) (response : Response) :
    (trim request response).status = response.status := by
  unfold trim
  split <;> rfl

end Http

/-- The records of a category are answered as they are after a clean-up. -/
theorem Catalogue.answer_services {catalogue : Catalogue} (complete : catalogue.Complete) (moment : Moment)
    (category : Category) : (catalogue.services moment.now category).answer =
      some ((catalogue.list category).filter (!·.expiredAt moment.now)) := by
  have performed : catalogue.services moment.now category =
      catalogue.perform (.request (.services category) moment.reading) := rfl
  have answered : (catalogue.services moment.now category).answer =
      some ((catalogue.services moment.now category).catalogue.list category) := rfl
  rw [answered, performed, list, list, store?_perform complete]
  cases found : catalogue.store? category with
  | none => rfl
  | some store => simp [Store.after, Store.cleanUpIn, category_of_store? found, Store.cleanUp, Moment.reading]

variable {δ : Type} [Device δ]

/-- The service is as it was, nothing has been called, and nothing has been announced. -/
structure Turn.LeavesAlone {α : Type} (done : Turn δ α) (service : Service δ) : Prop where
  service : done.service = service
  mdns : done.mdns = []
  changes : done.activity.changes = []
  calls : done.activity.calls = []

namespace Service

variable {service : Service δ}

omit [Device δ] in
theorem leavesAlone_stay {α : Type} (service : Service δ) (result : α) : (service.stay result).LeavesAlone service :=
  ⟨rfl, rfl, rfl, rfl⟩

/-- Between operations nothing is on its way in a service, or its worker has ended. -/
theorem rest_or_closed_of_operated {window : Span} {dispatcher : Dispatcher δ} {responder : Mdns.Responder}
    (operated : Operated (start (.empty window) dispatcher responder).service service) :
    service.worker.AtRest ∧ service.worker.requests.waiting = [] ∨ service.Closed := by
  -- The service stands for a state of rest that a run leads to. There the worker waits for commands, or it has ended.
  obtain ⟨trace, wired, runs, shows⟩ := attained_of_operated (show false ≠ true from Bool.noConfusion) operated
  rw [Closed, ← shows.worker]
  rcases shows.settled.phase with receiving | ⟨failed, ended, closed⟩
  · have running : wired.system.phase.isRunning = true := by
      rw [receiving]
      rfl
    refine .inl ⟨?_, shows.unasked⟩
    constructor
    case running => exact running
    case receiving => exact Clients.isReceiving_of_isRunning runs.system running
    case capacity => exact Clients.capacity_runs runs.system
    case unserved => simp [Clients.State.worker, Channel.map, shows.settled.unserved]
    case pending => exact Clients.pending_runs runs.system
    case complete =>
      have held : wired.system.catalogue = _ := (Clients.serves_runs runs.system).catalogue
      have complete : wired.system.catalogue.Complete := held ▸ Catalogue.complete_run window _
      exact complete
  · exact .inr closed

/-! ## Calls of a service at rest -/

/-- A request that only reads is answered, and that is all. -/
theorem submit_of_onlyReads (rest : service.worker.AtRest) (unasked : service.worker.requests.waiting = [])
    (setting : Setting) {request : Request} (reads : request.onlyReads = true) :
    (service.submit setting (.request request)).LeavesAlone service := by
  obtain ⟨answer, served⟩ := service.worker.catalogue.handle_of_onlyReads setting.moment.reading reads
  have executed : service.worker.execute setting.toSurroundings (.request request) =
      (service.worker, ⟨answer.toList, [], [], []⟩) := Worker.execute_quiet rest.pending served rfl rfl
  have drained := Worker.drain_single rest.unserved setting.toSurroundings (by rw [executed]; exact rest.unserved)
  have idle : { service.worker.requests with waiting := [] } = service.worker.requests := by rw [← unasked]
  rw [submit, send_of_rest rest]
  simp only [settle, drained, executed, unasked, idle]
  exact ⟨rfl, rfl, rfl, rfl⟩

/-- A call of a service at rest is accepted. -/
theorem exists_submitted (rest : service.worker.AtRest) (setting : Setting) (command : Command) :
    ∃ answer, (service.submit setting command).result = .ok answer := by
  rw [submit, send_of_rest rest]
  exact ⟨_, rfl⟩

/-- A query is answered before anything that is triggered by it. -/
theorem ask_of_rest (rest : service.worker.AtRest) (setting : Setting) {request : Request} {step : Step}
    (served : service.worker.catalogue.serve setting.moment request = .ok step) {records : List Record}
    (answered : step.answer = some records) : (service.ask setting request).result = .ok records := by
  have taken := Worker.next?_single rest.unserved setting.toSurroundings (.request request)
  have first : (service.worker.execute setting.toSurroundings (.request request)).2.answers.head? = some records := by
    simp only [Worker.execute, served, answered]
    rfl
  rcases executed : service.worker.execute setting.toSurroundings (.request request) with ⟨next, activity⟩
  rw [executed] at taken first
  -- Whatever comes of the command later, its answers are behind this one.
  obtain ⟨others, answers⟩ := List.head?_eq_some_iff.mp first
  have head (more logged : Activity) : (activity ++ more ++ logged).answers.head? = some records := by
    change (activity.answers ++ more.answers ++ logged.answers).head? = some records
    rw [answers]
    rfl
  simp only [ask, submit, send_of_rest rest, settle, Worker.drain_of_some taken, head]

theorem exists_records (rest : service.worker.AtRest) (setting : Setting) {request : Request}
    (query : request.isQuery = true) : ∃ records, (service.ask setting request).result = .ok records := by
  -- No query sets a deadline, so none can overflow.
  obtain ⟨step, served⟩ : ∃ step, service.worker.catalogue.serve setting.moment request = .ok step := by
    cases request with
    | services | sessions | everything => exact ⟨_, rfl⟩
    | sighting | scan | scanAll | cleanUpAll => cases query
  obtain ⟨records, answered⟩ := Option.isSome_iff_exists.mp ((Clients.isSome_answer served).trans query)
  exact ⟨records, ask_of_rest rest setting served answered⟩

/-! ## What a request comes to -/

/-- An action that puts no request to the worker is answered at once. -/
theorem perform_of_uncalled (service : Service δ) (setting : Setting) {action : Http.Action}
    (uncalled : action.call? = none) : ∃ response, service.perform setting action = service.stay response := by
  cases action with
  | fingerprint | events => exact ⟨_, rfl⟩
  | sessions => cases uncalled
  | services category => cases category <;> cases uncalled
  | scan category =>
    cases category with
    | none => cases uncalled
    | some category =>
      have sentinel : category.scanTarget = none := by simpa [Http.Action.call?] using uncalled
      exact ⟨.badRequest, by simp only [perform, sentinel]⟩

/-- An action that puts a request to the worker does what the call does, and its response tells whether that got through. -/
theorem perform_of_called (service : Service δ) (setting : Setting) {action : Http.Action} {asked : Request}
    (called : action.call? = some asked) :
    let done := service.perform setting action
    let submitted := service.submit setting (.request asked)
    (done.service = submitted.service ∧ done.mdns = submitted.mdns ∧ done.activity = submitted.activity) ∧
      (done.result = recordsResponse (service.ask setting asked).result ∧ asked.isQuery = true ∨
        done.result = scanResponse (service.tell setting asked).result) := by
  cases action with
  | fingerprint | events => cases called
  | sessions =>
    cases called
    exact ⟨⟨rfl, rfl, rfl⟩, .inl ⟨rfl, rfl⟩⟩
  | services category =>
    cases category <;> cases called <;> exact ⟨⟨rfl, rfl, rfl⟩, .inl ⟨rfl, rfl⟩⟩
  | scan category =>
    cases category with
    | none =>
      cases called
      exact ⟨⟨rfl, rfl, rfl⟩, .inr rfl⟩
    | some category =>
      obtain ⟨target, targets, rfl⟩ : ∃ target, category.scanTarget = some target ∧ .scan target = asked := by
        simpa [Http.Action.call?] using called
      simp only [perform, targets]
      exact ⟨⟨rfl, rfl, rfl⟩, .inr trivial⟩

/-- An action leaves a service alone if the call that it makes does. -/
theorem leavesAlone_perform_of_submit {setting : Setting} {action : Http.Action}
    (alone : ∀ asked ∈ action.call?, (service.submit setting (.request asked)).LeavesAlone service) :
    (service.perform setting action).LeavesAlone service := by
  cases called : action.call? with
  | none =>
    obtain ⟨response, stayed⟩ := service.perform_of_uncalled setting called
    rw [stayed]
    exact leavesAlone_stay service response
  | some asked =>
    obtain ⟨⟨same, mdns, activity⟩, _⟩ := service.perform_of_called setting called
    have alone := alone asked called
    exact ⟨same.trans alone.service, mdns.trans alone.mdns, by rw [activity, alone.changes], by rw [activity, alone.calls]⟩

theorem leavesAlone_submit_of_closed (closed : service.Closed) (setting : Setting) (command : Command) :
    (service.submit setting command).LeavesAlone service := by
  rw [submit_of_closed closed]
  exact leavesAlone_stay service _

/-- Whatever only reads or fails leaves a service alone. -/
theorem leavesAlone_perform (ready : service.worker.AtRest ∧ service.worker.requests.waiting = [] ∨ service.Closed)
    (setting : Setting) {action : Http.Action}
    (harmless : (∀ asked ∈ action.call?, asked.onlyReads = true) ∨
      (service.perform setting action).result.status ∉ [200, 202]) :
    (service.perform setting action).LeavesAlone service := by
  apply leavesAlone_perform_of_submit
  intro asked called
  rcases ready with ⟨rest, unasked⟩ | closed
  · rcases harmless with reads | failed
    · exact submit_of_onlyReads rest unasked setting (reads asked called)
    · -- A service at rest accepts every call, so the request has not failed.
      refine absurd ?_ failed
      obtain ⟨_, response⟩ := service.perform_of_called setting called
      rcases response with ⟨response, query⟩ | response
      · obtain ⟨records, answered⟩ := exists_records rest setting query
        simp [response, answered, recordsResponse, Http.Response.ofJson]
      · obtain ⟨answer, accepted⟩ := exists_submitted rest setting (.request asked)
        simp [response, tell, accepted, Except.map, scanResponse, Http.Response.accepted, Http.Response.ofStatus]
  · exact leavesAlone_submit_of_closed closed setting _

theorem respond_of_route (service : Service δ) (setting : Setting) {request : Http.Request} {action : Http.Action}
    (routed : Http.route request = .ok action) :
    let done := service.perform setting action
    service.respond setting request = { done with result := Http.trim request done.result } := by
  simp only [respond, routed]

/-- A request leaves a service alone if the action that it is for does. -/
theorem leavesAlone_respond_of_perform {setting : Setting} {request : Http.Request}
    (alone : ∀ action, Http.route request = .ok action → (service.perform setting action).LeavesAlone service) :
    (service.respond setting request).LeavesAlone service := by
  cases routed : Http.route request with
  | error refusal =>
    simp only [respond, routed]
    exact leavesAlone_stay service _
  | ok action =>
    rw [respond_of_route service setting routed]
    have alone := alone action routed
    exact ⟨alone.service, alone.mdns, alone.changes, alone.calls⟩

theorem leavesAlone_respond (ready : service.worker.AtRest ∧ service.worker.requests.waiting = [] ∨ service.Closed)
    (setting : Setting) {request : Http.Request}
    (harmless : request.OnlyReads ∨ (service.respond setting request).result.status ∉ [200, 202]) :
    (service.respond setting request).LeavesAlone service := by
  apply leavesAlone_respond_of_perform
  intro action routed
  refine leavesAlone_perform ready setting (harmless.imp (fun reads => ?_) fun failed => ?_)
  · obtain ⟨_, found, asked⟩ := Http.exists_route_of_onlyReads reads
    cases found.symm.trans routed
    exact asked
  · simpa [respond_of_route service setting routed] using failed

/-- In every state of rest, a request for the records of a category and a request for a scan do what the calls they stand
for do, and are answered as these are. A request that only reads, and one that is answered with a failure, leaves
everything as it is. While other calls are on their way that is no different: as the call of such a request gets on and is
served, nothing changes but the queue, and a call that fails is not served at all. -/
theorem requests_act_as_their_calls (window : Span) (dispatcher : Dispatcher δ) (responder : Mdns.Responder) :
    (∀ service, Operated (start (.empty window) dispatcher responder).service service →
      ∀ (setting : Setting) (request : Http.Request),
      let done := service.respond setting request
      (∀ category, request.Targets .services → request.query = .ok (some category) →
        let asked := service.ask setting (.services category)
        done = { asked with result := Http.trim request (recordsResponse asked.result) } ∧
        (¬ service.Closed → asked.result =
          .ok ((service.worker.catalogue.list category).filter (!·.expiredAt setting.moment.now)))) ∧
      (request.Targets .scan → request.query = .ok none →
        let told := service.tell setting .scanAll
        done = { told with result := Http.trim request (scanResponse told.result) }) ∧
      (∀ category target, request.Targets .scan → request.query = .ok (some category) →
        category.scanTarget = some target →
        let told := service.tell setting (.scan target)
        done = { told with result := Http.trim request (scanResponse told.result) }) ∧
      (request.OnlyReads ∨ done.result.status ∉ [200, 202] → done.LeavesAlone service)) ∧
    (∀ request : Http.Request, request.OnlyReads →
      ∃ action, Http.route request = .ok action ∧ ∀ asked ∈ action.call?, asked.onlyReads = true) ∧
    ∀ {ι : Type} [DecidableEq ι] (agent : ι) (trace : List (WiredEvent ι)) (wired next : Wired ι δ)
      (event : Clients.Event ι), Wired.Runs agent (.start window dispatcher requestSlots responder) trace wired →
      Wired.Happens agent wired (.system event) next →
      (event.isQuiet = true → wired.system.Untouched next.system ∧ next.browser = wired.browser ∧
        Clients.announced [event] = []) ∧
      ∀ client ticket, event = .returned client ticket .failed →
        (∀ number, wired.system.calls client ≠ .sent number .shutdown) →
        ∀ execution ∈ Clients.executions (Wired.systemEvents agent trace), some execution.envelope.ticket ≠ ticket := by
  refine ⟨fun service operated setting request => ?_, fun request => Http.exists_route_of_onlyReads, ?_⟩
  · have ready := rest_or_closed_of_operated operated
    refine ⟨fun category targets named => ⟨?_, fun running => ?_⟩, fun targets unnamed => ?_,
      fun category target targets named scanned => ?_, leavesAlone_respond ready setting⟩
    · exact respond_of_route service setting (Http.route_of_services targets named)
    · obtain ⟨rest, _⟩ := ready.resolve_right running
      exact ask_of_rest rest setting rfl (Catalogue.answer_services rest.complete setting.moment category)
    · exact respond_of_route service setting (Http.route_of_scan targets unnamed)
    · rw [respond_of_route service setting (Http.route_of_scan targets named)]
      simp only [perform, scanned]
  · intro ι _ agent trace wired next event runs happens
    cases happens with
    | system happens =>
      refine ⟨fun quiet => ?_, ?_⟩
      · obtain ⟨untouched, silent⟩ := happens.untouched runs.system quiet
        exact ⟨untouched, rfl, silent⟩
      · rintro client ticket rfl unjoined
        exact Clients.unserved_of_failed runs.system unjoined happens

/-- A lamp is held, and its deadline has passed. The request for the lamps cleans it up; the same request with one
character more is for nothing that there is, and cleans up nothing. -/
theorem requests_act_as_their_calls_lamp :
    let setting (second : Int) : Setting :=
      { moment := ⟨(Time.Instant.ofParts? second 0).getD .epoch, .readable []⟩
        host := ⟨.listed [], fun _ => .error "", fun _ => .error ""⟩
        responder := fun _ => .ok () }
    let dispatcher : Dispatcher Backend := ⟨Backend.registry, .null, .unused⟩
    let started := (start (.empty (.ofSeconds 10)) dispatcher (setting 0).responder).service
    let service := (started.tell (setting 0) (.sighting ⟨.wled, "10.0.0.5", 80, "attic", true⟩)).service
    let lamps : Http.Request := ⟨"GET", "/v1/services?category=wled"⟩
    let mistyped : Http.Request := ⟨"GET", "/v1/services/?category=wled"⟩
    Operated started service ∧ lamps.Targets .services ∧ lamps.query = .ok (some .wled) ∧ ¬ service.Closed ∧
    (service.worker.catalogue.list .wled).length = 1 ∧
    (service.ask (setting 11) (.services .wled)).result = .ok [] ∧
    (service.respond (setting 11) mistyped).result.status = 404 ∧
    (service.respond (setting 11) mistyped).LeavesAlone service := by
  intro setting dispatcher started service lamps mistyped
  let lamp : Sighting := ⟨.wled, "10.0.0.5", 80, "attic", true⟩
  have operated : Operated started service := .tell (setting 0) (.sighting lamp) .start
  have named : lamps.Targets .services ∧ lamps.query = .ok (some .wled) := Http.targets_services_named .wled
  have rest := atRest_start (.ofSeconds 10) dispatcher (setting 0).responder
  obtain ⟨step, served⟩ : ∃ step, started.worker.catalogue.serve (setting 0).moment (.sighting lamp) = .ok step :=
    Catalogue.exists_sight rest.complete fun _ _ _ => by decide +kernel
  obtain ⟨_, still, _, held⟩ := tell_of_rest rest served (Worker.scans_of_sighting served)
  have running : ¬ service.Closed := by
    rw [Closed, still.receiving]
    exact Bool.noConfusion
  have listed : service.worker.catalogue.list .wled = [{ lamp with expiry := (setting 10).moment.now }] := by
    rw [held]
    decide +kernel
  have missing : (service.respond (setting 11) mistyped).result.status = 404 := by
    have routed : Http.route mistyped = .error .notFound := Http.route_of_unknown (by decide +kernel)
    simp only [respond, routed, Http.status_trim]
    rfl
  have acts := (requests_act_as_their_calls (.ofSeconds 10) dispatcher (setting 0).responder).1 service operated (setting 11)
  obtain ⟨asks, _⟩ := acts lamps
  obtain ⟨_, _, _, leaves⟩ := acts mistyped
  have answered := (asks .wled named.1 named.2).2 running
  rw [listed] at answered
  refine ⟨operated, named.1, named.2, running, by rw [listed]; rfl, ?_, missing, leaves (.inr (by simp [missing]))⟩
  rw [answered]
  decide +kernel

end Service

end Discovery
