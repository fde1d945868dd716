import Discovery.Proofs.Clients.Merging
import Discovery.Proofs.Clients.Scanning
import Discovery.Proofs.Dispatcher.SerialPorts
/-!
# One scan of serial ports

From rest, a request for a scan of serial ports is served first, and what its scan has put into the queue is then merged
sighting by sighting. That is all there is to a scan that nobody disturbs.
-/
namespace Discovery

open Time (Span)

namespace Clients

/-! ## Scans of the daemon -/

section
variable {ι : Type} [DecidableEq ι] {window : Span} {config : Json} {requestSlots : Nat} {device : Adalight} {logs : List Log}
variable {state next called : State ι Backend} {event : Event ι} {past trace : List (Event ι)} {host : Host} {client : ι}
  {request : Request}

theorem Happens.employs (happens : Happens state event next) (employs : state.dispatcher.Employs device) :
    next.dispatcher.Employs device := by
  cases happens with
  | @trigger _ category _ host _ _ triggered =>
    rw [← triggered]
    exact (employs.trigger _ host category).1
  | _ => exact employs

theorem equipped_runs (valid : (Backend.registry.construct config).result = .ok (.adalight device, logs))
    (runs : Runs (.start (.empty window) (.unused Backend.registry config) requestSlots) trace state)
    (running : state.phase.isRunning = true) (host : Host) : Equipped host (device.finds host) state := by
  have employs : state.dispatcher.Employs device := by
    clear running
    induction runs with
    | start => exact .inr ⟨rfl, logs, valid⟩
    | next _ happens ih => exact happens.employs ih
  refine ⟨pending_runs runs, capacity_runs runs, isReceiving_of_isRunning runs running, fun category => ?_⟩
  exact (employs.trigger _ host category).2

theorem Proceeds.course (valid : (Backend.registry.construct config).result = .ok (.adalight device, logs))
    (runs : Runs (.start (.empty window) (.unused Backend.registry config) requestSlots) past called)
    (sending : Sending client request [] called) (scans : request.ScansSerial) (proceeds : Proceeds host called trace state) :
    Sending client request trace state ∨ ∃ reported, Course request (device.finds host) reported trace state := by
  induction proceeds with
  | start => exact .inl sending
  | next before undisturbed ih =>
    have whole := runs.trans before.runs
    rcases ih with sending | ⟨reported, course⟩
    · have receiving := isReceiving_of_isRunning whole (by rw [sending.receiving]; rfl)
      exact (sending.undisturbed receiving undisturbed _).imp_right fun course => ⟨[], course⟩
    · exact .inr (course.undisturbed (equipped_runs valid whole course.stage.isRunning host) scans undisturbed)

/-- However far a scan has got, it can go on to its end, and nobody has to do anything for that. -/
theorem Proceeds.exists_rest (valid : (Backend.registry.construct config).result = .ok (.adalight device, logs))
    (runs : Runs (.start (.empty window) (.unused Backend.registry config) requestSlots) past called)
    (sending : Sending client request [] called) (scans : request.ScansSerial) (proceeds : Proceeds host called trace state)
    {moment : Moment} (fits : (moment.now.add? window).isSome = true) :
    ∃ later final, Proceeds host state later final ∧ final.AtRest ∧
      (∀ event ∈ later, event.isOwn = true ∨ ∃ envelope, event = .accept envelope) ∧
      ∀ execution ∈ executions later, execution.reading = moment.reading := by
  have whole := runs.trans proceeds.runs
  rcases proceeds.course valid runs sending scans with sending | ⟨reported, course⟩
  · have running : state.phase.isRunning = true := by
      rw [sending.receiving]
      rfl
    obtain ⟨envelope, next, undisturbed, course⟩ := sending.exists_course (capacity_runs whole)
      (isReceiving_of_isRunning whole running) host (device.finds host)
    obtain ⟨later, final, on, rest, own, now⟩ := Clients.exists_rest (whole.next undisturbed.happens) course.lasting
      course.unsent host fits
    refine ⟨[.accept envelope] ++ later, final, (Proceeds.start.next undisturbed).trans on, rest, ?_, ?_⟩
    · intro event member
      rcases List.mem_append.mp member with first | others
      · exact .inr ⟨envelope, List.mem_singleton.mp first⟩
      · exact .inl (List.all_eq_true.mp own event others)
    · intro execution member
      rw [executions_append] at member
      exact now execution member
  · obtain ⟨later, final, on, rest, own, now⟩ := Clients.exists_rest whole course.lasting course.unsent host fits
    exact ⟨later, final, on, rest, fun event member => .inl (List.all_eq_true.mp own event member), now⟩

omit [DecidableEq ι] in
theorem State.AtRest.sending [DecidableEq ι] {idle : State ι Backend} (rest : idle.AtRest) (client : ι) (request : Request) :
    Sending client request [] (idle.withCall client (.sending (.request request))) := by
  refine ⟨by simp, fun other different => ?_, rest.receiving, rest.unserved, rfl, rfl, rfl⟩
  simpa [different] using rest.unsent other

theorem exists_scan (valid : (Backend.registry.construct config).result = .ok (.adalight device, logs))
    {idle : State ι Backend} (runs : Runs (.start (.empty window) (.unused Backend.registry config) requestSlots) past idle)
    (rest : idle.AtRest) (free : idle.calls client = .idle) (scans : request.ScansSerial) (host : Host) {moment : Moment}
    (fits : (moment.now.add? window).isSome = true) :
    ∃ later final, Runs idle (.call client (.request request) :: later) final ∧ final.AtRest ∧
      (∀ event ∈ later, event.isOwn = true ∨ ∃ envelope, event = .accept envelope) ∧
      (executions later).map (·.request) = request :: ((device.finds host).take Worker.slots).map .sighting ∧
      ∀ execution ∈ executions later, execution.reading = moment.reading := by
  have call : Happens idle (.call client (.request request)) _ := .call free
  have sending := rest.sending client request
  have here : Proceeds host (idle.withCall client (.sending (.request request))) [] _ := .start
  obtain ⟨later, final, proceeds, done, quiet, now⟩ := here.exists_rest valid (runs.next call) sending scans fits
  refine ⟨later, final, (Runs.start.next call).trans proceeds.runs, done, quiet, ?_, now⟩
  rcases proceeds.course valid (runs.next call) sending scans with waiting | ⟨reported, course⟩
  · exact absurd waiting.sending done.unsent.of_sending
  · exact (course.of_rest proceeds.runs done).1

/-- A scan on a daemon that has not listed anything announces every port that the queue takes. -/
theorem exists_announced (valid : (Backend.registry.construct config).result = .ok (.adalight device, logs)) (client : ι)
    {host : Host} (different : (((device.finds host).take Worker.slots).map (·.key)).Nodup) {moment : Moment}
    (fits : (moment.now.add? window).isSome = true)
    (distant : ∀ incoming ∈ device.finds host, moment.interfaces.isLocal incoming.address = false) :
    let start : State ι Backend := .start (.empty window) (.unused Backend.registry config) requestSlots
    ∃ later final, Runs start (.call client (.request (.scan .serial)) :: later) final ∧ final.AtRest ∧
      (∀ event ∈ later, event.isOwn = true ∨ ∃ envelope, event = .accept envelope) ∧
      (announced later).map (·.category) = ((device.finds host).take Worker.slots).map (·.category) ∧
      ∀ change ∈ announced later, change.services ≠ [] := by
  intro start
  have here : Runs start [] start := .start
  have rest : start.AtRest := ⟨rfl, rfl, fun _ => rfl⟩
  have scans : Request.ScansSerial (.scan .serial) := rfl
  obtain ⟨later, final, runs, done, quiet, requests, now⟩ :=
    exists_scan valid here rest (rfl : start.calls client = .idle) scans host fits
  obtain ⟨first, merged, split, asked, told⟩ := List.map_eq_cons_iff.mp requests
  have served : Served start.catalogue (executions later) final.catalogue := runs.served
  rw [split] at served
  obtain ⟨handled, after⟩ := served
  -- The request for a scan itself leaves the catalogue empty and announces nothing.
  rw [asked] at handled
  have step := Except.ok.inj handled
  have empty : first.step.catalogue.runPending.catalogue = .empty window := by
    rw [← step]
    rfl
  rw [empty] at after
  have present : ∀ incoming ∈ (device.finds host).take Worker.slots, incoming.category ≠ .unknown ∧ incoming.live = true ∧
      incoming.key ∉ (Catalogue.empty window).keys incoming.category := by
    intro incoming member
    obtain ⟨concrete, live⟩ := Adalight.of_mem_finds (List.mem_of_mem_take member)
    have nothing : (Catalogue.empty window).list incoming.category = [] := by cases incoming.category <;> rfl
    refine ⟨concrete, live, ?_⟩
    simp [Catalogue.keys, nothing]
  have announces := after.announces (Catalogue.complete_empty window) told present different fun execution member incoming seen => by
    rw [now execution (split ▸ List.mem_cons_of_mem _ member)]
    exact distant incoming (List.mem_of_mem_take seen)
  have changes : announced later = merged.flatMap (·.step.changes) := by
    rw [announced, split, List.flatMap_cons, ← step]
    rfl
  refine ⟨later, final, runs, done, quiet, ?_⟩
  rw [changes]
  exact announces

/-- From rest, one request that leads to a scan of serial ports comes to rest again when nobody disturbs it, whoever has made
it and however far it has got. The worker has then served the request and after it, in the order in which the ports are listed,
as many of the sightings of the scan as its queue has slots. It has merged each of them into the stores that the request has
left and has announced at most one change of it; all other sightings are lost and have had no effect. A path is not sighted
more often than it is listed. If the ports cannot be listed, nothing has come of the scan at all. -/
theorem serial_scan_merges_first_ports (valid : (Backend.registry.construct config).result = .ok (.adalight device, logs))
    {idle : State ι Backend} (runs : Runs (.start (.empty window) (.unused Backend.registry config) requestSlots) past idle)
    (rest : idle.AtRest) (free : idle.calls client = .idle) (scans : request.ScansSerial)
    (proceeds : Proceeds host (idle.withCall client (.sending (.request request))) trace state) :
    let found := device.finds host
    (∀ moment : Moment, (moment.now.add? window).isSome = true →
      ∃ later final, Proceeds host state later final ∧ final.AtRest) ∧
    (state.AtRest → ∃ first merged, executions trace = first :: merged ∧
      first.request = request ∧ idle.catalogue.handle first.reading request = .ok first.step ∧
      merged.map (·.request) = (found.take 256).map .sighting ∧ losses trace = found.drop 256 ∧
      (∀ category store, first.step.catalogue.store? category = some store →
        ∃ after, state.catalogue.store? category = some after ∧
          store.mergeAll window ((found.take 256).zip (merged.map (·.reading))) = .ok after) ∧
      announced trace = first.step.changes ++ merged.flatMap (·.step.changes) ∧
      (∀ execution ∈ merged, execution.step.changes.length ≤ 1) ∧
      (∀ ports, host.ports = .listed ports → ∀ path,
        (found.take 256).countP (·.address = path) ≤ ports.countP (·.name = path)) ∧
      (∀ reason, host.ports = .unavailable reason → announced trace = first.step.changes ∧
        state.catalogue.stores = first.step.catalogue.stores ∧
        state.catalogue.fingerprint = first.step.catalogue.fingerprint)) := by
  intro found
  have call : Happens idle (.call client (.request request)) _ := .call free
  have asked := runs.next call
  have sending := rest.sending client request
  constructor
  · intro moment fits
    obtain ⟨later, final, on, done, _⟩ := proceeds.exists_rest valid asked sending scans fits
    exact ⟨later, final, on, done⟩
  · intro done
    rcases proceeds.course valid asked sending scans with waiting | ⟨reported, course⟩
    · exact absurd waiting.sending done.unsent.of_sending
    obtain ⟨requests, lost⟩ := course.of_rest proceeds.runs done
    obtain ⟨first, merged, split, own, others⟩ := List.map_eq_cons_iff.mp requests
    have served := proceeds.runs.served
    rw [split] at served
    obtain ⟨handled, after⟩ := served
    have complete : idle.catalogue.Complete := by
      rw [(serves_runs runs).catalogue]
      exact Catalogue.complete_run window _
    obtain ⟨settled, kept⟩ := Catalogue.complete_of_handle complete handled
    have same : first.step.catalogue.runPending.catalogue.window = window := kept.trans (catalogue_runs runs).1
    -- The request comes first, and what its scan has found is merged into the stores that it has left.
    obtain ⟨merges, single⟩ := after.merges settled others
    rw [same] at merges
    have changes : announced trace = first.step.changes ++ merged.flatMap (·.step.changes) := by
      rw [announced, split, List.flatMap_cons]
    refine ⟨first, merged, split, own, own ▸ handled, others, lost, merges, changes, single, ?_, ?_⟩
    · intro ports listed path
      exact ((List.take_sublist _ _).countP_le).trans (Adalight.countP_finds listed path)
    · intro reason unavailable
      have none : device.finds host = [] := by simp only [Adalight.finds, unavailable]
      have idle : merged = [] := by simpa [none] using others
      rw [idle] at changes after
      rw [show state.catalogue = _ from after]
      exact ⟨changes.trans (List.append_nil _), rfl, rfl⟩

end

/-! ## A crowded host -/

/-- A host with a port on its board, and with one board of one family and three hundred of another on USB. -/
def crowdedHost : Host where
  ports := .listed (⟨"/dev/ttyS0", .pci⟩ :: ⟨"/dev/ttyACM0", .usb ⟨0x2e8a, 0x000a, none, some "Pico"⟩⟩ ::
    (List.range 300).map fun number =>
      ⟨"/dev/ttyUSB" ++ String.ofList (Decimal.digits number), .usb ⟨0x1a86, 0x7523, none, some "USB Serial"⟩⟩)
  openPort _ := .error "Permission denied"
  createFile _ := .error "Permission denied"

/-- What a controller finds on the crowded host. -/
def crowd : List Sighting :=
  ⟨.pico, "/dev/ttyACM0", 0, "Pico", true⟩ :: (List.range 300).map fun number =>
    ⟨.esp, "/dev/ttyUSB" ++ String.ofList (Decimal.digits number), 0, "USB Serial", true⟩

theorem finds_crowdedHost (opened : Option (Option String)) : Adalight.finds ⟨.default, opened⟩ crowdedHost = crowd := by
  have pico : Category.ofVendor 0x2e8a = .pico := by decide
  have esp : Category.ofVendor 0x1a86 = .esp := by decide
  simp [Adalight.finds, crowdedHost, crowd, Adalight.boards, List.filterMap_map, Function.comp_def, Adalight.Board.category,
    pico, esp, Adalight.Board.sighting, Adalight.Board.hostName]

/-- A client asks for a category of boards on the crowded host. The queue takes 256 of the boards, and the others are lost. -/
theorem serial_scan_merges_first_ports_crowded :
    let config : Json := .object [("type", .string "adalight")]
    let idle : State Unit Backend := .start (.empty (.ofSeconds 120)) (.unused Backend.registry config) 8
    ∃ trace state, Proceeds crowdedHost (idle.withCall () (.sending (.request (.services .pico)))) trace state ∧
      state.AtRest ∧ (executions trace).length = 257 ∧ (losses trace).length = 45 := by
  intro config idle
  have valid : (Backend.registry.construct config).result = .ok (.adalight ⟨.default, none⟩, []) := by rfl
  have rest : idle.AtRest := ⟨rfl, rfl, fun _ => rfl⟩
  have scans : Request.ScansSerial (.services .pico) := rfl
  have fits : (Moment.now ⟨.epoch, .readable []⟩ |>.add? (.ofSeconds 120)).isSome = true := by decide +kernel
  obtain ⟨trace, state, proceeds, done⟩ :=
    (serial_scan_merges_first_ports valid .start rest rfl scans .start).1 ⟨.epoch, .readable []⟩ fits
  obtain ⟨first, merged, split, _, _, requests, lost, _⟩ :=
    (serial_scan_merges_first_ports valid .start rest rfl scans proceeds).2 done
  rw [finds_crowdedHost] at requests lost
  have length := congrArg List.length requests
  have number : crowd.length = 301 := by simp [crowd]
  rw [List.length_map, List.length_map, List.length_take, number] at length
  refine ⟨trace, state, proceeds, done, ?_, ?_⟩
  · rw [split, List.length_cons, length]
    rfl
  · rw [lost, List.length_drop, number]

end Clients

end Discovery
