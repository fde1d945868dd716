import Discovery.Proofs.Catalogue.Keys
import Discovery.Proofs.Mdns.Wired
import Discovery.Proofs.Net.RoundTrip
/-!
# The store mirrors the browser

The browser remembers what it has resolved by full name, the store of a category lists what has been sighted by address and
port, and between the two stands the queue. What is still on its way from the one to the other, applied to the keys of the
store, gives the keys of the table; once nothing is on its way, the two have the same keys.
-/
namespace Discovery

open Net (Address Interfaces)
open Time (Span)

/-- The sighting that a command brings to a category. -/
def Command.about? (command : Command) (category : Category) : Option Sighting :=
  match command with
  | .request asked => asked.about? category
  | .shutdown => none

/-! ## On its way -/

namespace Clients

variable {ι δ : Type} [DecidableEq ι] [Device δ]
variable {state next : State ι δ} {event : Event ι} {category : Category} {agent : ι}

/-- The sightings of a category that have not been applied yet, the oldest first: those in the queue, and that of a client
that has not got a place in it yet. -/
def onTheWay (agent : ι) (category : Category) (state : State ι δ) : List Sighting :=
  (state.phase.inHand ++ state.commands.waiting).filterMap (·.command.about? category) ++
    (state.calls agent).unsent.filterMap (·.about? category)

omit [Device δ] in
/-- The queue accepts no sightings of the category but the agent's. -/
theorem filterMap_about?_of_source {envelopes : List (Envelope ι)}
    (source : ∀ envelope ∈ envelopes, ∀ sighting, envelope.command.about? category = some sighting →
      envelope.origin = .client agent) :
    envelopes.filterMap (·.command.about? category) =
      (envelopes.filterMap (·.of? agent)).filterMap (·.about? category) := by
  rw [List.filterMap_filterMap]
  refine List.filterMap_congr fun envelope member => ?_
  cases about : envelope.command.about? category with
  | none =>
    cases sender : envelope.of? agent with
    | none => rfl
    | some command =>
      have same : command = envelope.command := by
        unfold Envelope.of? at sender
        split at sender
        · simp only [Option.ite_none_right_eq_some, Option.some.injEq] at sender
          exact sender.2.symm
        · cases sender
      rw [Option.bind_some, same, about]
  | some sighting =>
    simp [Envelope.of?, source envelope member sighting about, about]

/-- Nothing gets lost on the way, and nothing overtakes. -/
theorem Happens.onTheWay_eq (happens : Happens state event next) (running : next.phase.isRunning = true)
    (receiving : state.commands.receiving = true)
    (source : ∀ envelope ∈ accepted [event], ∀ sighting, envelope.command.about? category = some sighting →
      envelope.origin = .client agent) :
    (executions [event]).filterMap (·.envelope.command.about? category) ++ onTheWay agent category next =
      onTheWay agent category state ++ (issued agent [event]).filterMap (·.about? category) := by
  -- The queue loses nothing of what it has accepted, and a call keeps what it brings until then.
  have moved := congrArg (List.filterMap (·.command.about? category)) (happens.pending_eq running)
  have sent := congrArg (List.filterMap (·.about? category)) (happens.unsent_eq receiving agent)
  simp only [List.filterMap_append, List.filterMap_map] at moved sent
  simp only [onTheWay, List.filterMap_append, List.append_assoc]
  rw [filterMap_about?_of_source source] at moved
  rw [sent]
  simpa only [Function.comp_def, List.append_assoc] using
    congrArg (· ++ (next.calls agent).unsent.filterMap (·.about? category)) moved

end Clients

namespace Mdns

/-! ## The table -/

/-- What is remembered under a name is of the category, not of this host itself, and has the key. -/
def Browser.Holds (browser : Browser) (interfaces : Interfaces) (category : Category) (name : String) (key : Key) : Prop :=
  ∃ sighting, browser.remembered? name = some sighting ∧ sighting.category = category ∧
    interfaces.isLocal sighting.address = false ∧ sighting.key = key

/-- The keys of what the browser remembers of a category, apart from this host itself. -/
def Browser.keys (browser : Browser) (interfaces : Interfaces) (category : Category) : Set Key :=
  { key | ∃ name, browser.Holds interfaces category name key }

/-- Every instance of a category is always resolved to the same place, and no two instances to the same. -/
def Steady (category : Category) (happenings : List Happening) : Prop :=
  ∀ name other sighting another, Resolved happenings name sighting → Resolved happenings other another →
    sighting.category = category → another.category = category →
    (name = other ↔ sighting.address = another.address ∧ sighting.port = another.port)

variable {browser next : Browser} {listener : Listener} {arrival : Arrival} {report : Option Sighting}
variable {category : Category} {interfaces : Interfaces}

namespace Browser

theorem holds_remember {name other : String} {sighting : Sighting} {key : Key} :
    (browser.remember name sighting).Holds interfaces category other key ↔
      if other = name then
        sighting.category = category ∧ interfaces.isLocal sighting.address = false ∧ sighting.key = key
      else browser.Holds interfaces category other key := by
  by_cases same : other = name <;> simp [Holds, remembered?_remember, same]

theorem holds_forget {name other : String} {key : Key} :
    (browser.forget name).Holds interfaces category other key ↔
      other ≠ name ∧ browser.Holds interfaces category other key := by
  by_cases same : other = name <;> simp [Holds, remembered?_forget, same]

/-- A name that is sighted again keeps its key, so sighting it moves the keys of the table as it moves those of a store. -/
theorem keys_remember {name : String} {sighting : Sighting} (live : sighting.live = true)
    (renewed : ∀ held, browser.remembered? name = some held →
      held.category = sighting.category ∧ (sighting.category = category → held.key = sighting.key)) :
    (browser.remember name sighting).keys interfaces category =
      ((Request.sighting sighting).about? category).toList.foldl (Sighting.moves interfaces)
        (browser.keys interfaces category) := by
  -- Under the name itself the same key has been held before, if any.
  have kept {key : Key} (held : browser.Holds interfaces category name key) :
      sighting.category = category ∧ interfaces.isLocal sighting.address = false ∧ sighting.key = key := by
    obtain ⟨before, found, own, distant, rfl⟩ := held
    obtain ⟨category, key⟩ := renewed before found
    have own := category.symm.trans own
    have key := key own
    have address : before.address = sighting.address := congrArg Key.address key
    exact ⟨own, address ▸ distant, key.symm⟩
  have split (key : Key) : key ∈ (browser.remember name sighting).keys interfaces category ↔
      (sighting.category = category ∧ interfaces.isLocal sighting.address = false ∧ sighting.key = key) ∨
        key ∈ browser.keys interfaces category := by
    constructor
    · rintro ⟨other, held⟩
      rw [holds_remember] at held
      split at held
      · exact .inl held
      · exact .inr ⟨other, held⟩
    · rintro (this | ⟨other, held⟩)
      · exact ⟨name, holds_remember.mpr (by rwa [if_pos rfl])⟩
      · refine ⟨other, holds_remember.mpr ?_⟩
        split
        next same => exact kept (same ▸ held)
        next => exact held
  ext key
  rw [split]
  by_cases own : sighting.category = category
  · cases isLocal : interfaces.isLocal sighting.address <;>
      simp [Request.about?, own, Sighting.moves, isLocal, live, eq_comm]
  · simp [Request.about?, own]

/-- No other name has the key of one that is removed. -/
theorem keys_forget {name : String} {last : Sighting} (found : browser.remembered? name = some last)
    (alone : ∀ other another, browser.remembered? other = some another → last.category = category →
      another.category = category → another.key = last.key → other = name) :
    (browser.forget name).keys interfaces category =
      ((Request.sighting { last with live := false }).about? category).toList.foldl (Sighting.moves interfaces)
        (browser.keys interfaces category) := by
  -- The key goes with the name, because no other name has it.
  have mine (key : Key) : browser.Holds interfaces category name key ↔
      last.category = category ∧ interfaces.isLocal last.address = false ∧ last.key = key := by
    simp only [Holds, found, Option.some.injEq, exists_eq_left']
  have split (key : Key) : key ∈ (browser.forget name).keys interfaces category ↔
      key ∈ browser.keys interfaces category ∧
        ¬ (last.category = category ∧ interfaces.isLocal last.address = false ∧ last.key = key) := by
    constructor
    · rintro ⟨other, held⟩
      obtain ⟨different, held⟩ := holds_forget.mp held
      refine ⟨⟨other, held⟩, fun ⟨own, _, key⟩ => different ?_⟩
      obtain ⟨another, there, same, _, equal⟩ := held
      exact alone other another there own same (equal.trans key.symm)
    · rintro ⟨⟨other, held⟩, apart⟩
      have different : other ≠ name := fun same => apart ((mine key).mp (same ▸ held))
      exact ⟨other, holds_forget.mpr ⟨different, held⟩⟩
  ext key
  rw [split]
  by_cases own : last.category = category
  · subst own
    have same : ({ last with live := false } : Sighting).key = last.key := rfl
    cases isLocal : interfaces.isLocal last.address <;>
      simp [Request.about?, Sighting.moves, isLocal, same, eq_comm]
  · simp [Request.about?, own]

end Browser

/-- What the browser reports moves the keys of its table as it moves those of a store. -/
theorem keys_serve {responder : Responder} {happenings : List Happening} {happening : Happening}
    (proper : ∀ made ∈ happenings ++ [happening], made.Proper) (steady : Steady category (happenings ++ [happening])) :
    let browser := (History.after responder happenings).browser
    (browser.serve happening).1.keys interfaces category =
      ((browser.serve happening).2.report.bind fun sighting => (Request.sighting sighting).about? category).toList.foldl
        (Sighting.moves interfaces) (browser.keys interfaces category) := by
  intro browser
  have recalled {name : String} {sighting : Sighting} (found : browser.remembered? name = some sighting) :
      Resolved happenings name sighting := resolved_of_sighted ((remembered?_after responder happenings name sighting).mp found)
  cases happening with
  | scan asked other =>
    -- A browse that is started again does not make the browser forget anything.
    have unmoved := resolved_restart browser asked other
    simp only [Browser.serve, Option.bind_none, Option.toList_none, List.foldl_nil]
    simp only [Browser.keys, Browser.Holds, Browser.remembered?, unmoved]
  | arrival listener arrival =>
    have receives := receives_receive browser listener arrival
    simp only [Browser.serve]
    generalize (browser.receive listener arrival).1 = next, (browser.receive listener arrival).2 = report at receives ⊢
    cases receives with
    | unheard | outdated | disconnected | unplaced | unknown | passing => rfl
    | @resolved service sighting _ found =>
      refine Browser.keys_remember (live_of_sighting? found).1 fun held remembered => ?_
      have now : Resolved (happenings ++ [.arrival listener (.event (.resolved service))]) service.fullName sighting :=
        ⟨listener, service, by simp, rfl, found⟩
      -- What is held under the name was resolved under the same service type, and so in the same category and place.
      obtain ⟨channel, other, member, same, was⟩ := recalled remembered
      have names : Names listener.category service.fullName := proper (.arrival listener (.event (.resolved service))) (by simp)
      have named : Names channel.category other.fullName :=
        proper (.arrival channel (.event (.resolved other))) (List.mem_append_left _ member)
      have category : held.category = sighting.category := by
        rw [(live_of_sighting? was).2, (live_of_sighting? found).2]
        exact category_unique (same ▸ named) names
      refine ⟨category, fun own => ?_⟩
      obtain ⟨address, port⟩ := (steady _ _ _ _ ((recalled remembered).append _) now (category.trans own) own).mp rfl
      simp only [Sighting.key, category, address, port]
    | @removed name last _ found =>
      refine Browser.keys_forget found fun other another remembered own same key => ?_
      exact (steady _ _ _ _ ((recalled remembered).append _) ((recalled found).append _) same own).mpr
        ⟨congrArg Key.address key, congrArg Key.port key⟩

/-! ## The simulation -/

section
variable {ι δ : Type} [DecidableEq ι] [Device δ]
variable {agent : ι} {own : List Address} {window : Span} {trace : List (WiredEvent ι)}

open Wired (systemEvents happenings reports)
open Clients (accepted executions turns)

/-- The surroundings of a run in which the browser is the only source of a category: full names are proper, places steady,
the interfaces those of a fixed list, and nothing that is listed of the category has expired when a request is served. -/
structure Calm (agent : ι) (own : List Address) (window : Span) (category : Category) (trace : List (WiredEvent ι)) :
    Prop where
  proper : ∀ happening ∈ happenings trace, happening.Proper
  steady : Steady category (happenings trace)
  source : ∀ envelope ∈ accepted (systemEvents agent trace), ∀ sighting,
    envelope.command.about? category = some sighting → envelope.origin = .client agent
  readable : ∀ execution ∈ executions (systemEvents agent trace), execution.reading.interfaces = .readable own
  timely : ∀ earlier execution later, executions (systemEvents agent trace) = earlier ++ execution :: later →
    ∀ record ∈ ((Catalogue.empty window).run (turns earlier)).catalogue.list category,
      record.expiredAt (execution.reading.clock category) = false

omit [DecidableEq ι] in
theorem Calm.of_append {event : WiredEvent ι} (calm : Calm agent own window category (trace ++ [event])) :
    Calm agent own window category trace := by
  obtain ⟨proper, steady, source, readable, timely⟩ := calm
  simp only [Wired.systemEvents_append, Wired.happenings_append, Clients.accepted_append, Clients.executions_append]
    at proper steady source readable timely
  refine ⟨fun happening member => proper happening (List.mem_append_left _ member), ?_,
    fun envelope member => source envelope (List.mem_append_left _ member),
    fun execution member => readable execution (List.mem_append_left _ member), fun earlier execution later split => ?_⟩
  · intro name other sighting another first second
    exact steady name other sighting another (first.append _) (second.append _)
  · refine timely earlier execution (later ++ executions (systemEvents agent [event])) ?_
    rw [split, List.append_assoc, List.cons_append]

/-- Where nothing that is listed has expired, one event of the worker or its clients moves the keys, together with what is
on its way to them, by what the browser issues and by nothing else. -/
theorem foldl_onTheWay {state next : Clients.State ι δ} {event : Clients.Event ι}
    (happens : Clients.Happens state event next) (running : next.phase.isRunning = true)
    (receiving : state.commands.receiving = true) (complete : state.catalogue.Complete) (concrete : category ≠ .unknown)
    (source : ∀ envelope ∈ accepted [event], ∀ sighting, envelope.command.about? category = some sighting →
      envelope.origin = .client agent)
    (readable : ∀ execution ∈ executions [event], execution.reading.interfaces = interfaces)
    (timely : ∀ execution ∈ executions [event], ∀ record ∈ state.catalogue.list category,
      record.expiredAt (execution.reading.clock category) = false) :
    (Clients.onTheWay agent category next).foldl (Sighting.moves interfaces) (next.catalogue.keys category) =
      ((Clients.issued agent [event]).filterMap (·.about? category)).foldl (Sighting.moves interfaces)
        ((Clients.onTheWay agent category state).foldl (Sighting.moves interfaces) (state.catalogue.keys category)) := by
  -- The store is moved by what is served, and by that alone.
  have moved : next.catalogue.keys category =
      ((executions [event]).filterMap (·.envelope.command.about? category)).foldl (Sighting.moves interfaces)
        (state.catalogue.keys category) := by
    rcases happens.serves_or_not with ⟨execution, rfl, _, request, handled, rfl⟩ | ⟨none, same, _, _⟩
    · have only : executions [Clients.Event.serve execution] = [execution] := rfl
      rw [only] at readable timely ⊢
      have keys := Catalogue.keys_handle complete concrete handled (timely execution (by simp))
      rw [readable execution (by simp)] at keys
      simp only [List.filterMap_cons, List.filterMap_nil, request, Command.about?]
      refine Eq.trans keys ?_
      cases execution.request.about? category <;> rfl
    · rw [none, same]
      rfl
  rw [moved, ← List.foldl_append, happens.onTheWay_eq running receiving source, List.foldl_append]

variable {dispatcher : Dispatcher δ} {requestSlots : Nat} {responder : Responder} {wired : Wired ι δ}

/-- In calm surroundings the keys, together with what is on its way to them, are moved by what the browser reports. -/
theorem Calm.foldl_onTheWay {event : WiredEvent ι} {next : Wired ι δ}
    (calm : Calm agent own window category (trace ++ [event])) (concrete : category ≠ .unknown)
    (runs : Wired.Runs agent (.start window dispatcher requestSlots responder) trace wired)
    (happens : Wired.Happens agent wired event next) (running : next.system.phase.isRunning = true) :
    (Clients.onTheWay agent category next.system).foldl (Sighting.moves (.readable own))
        (next.system.catalogue.keys category) =
      (((reports [event]).map Request.sighting).filterMap (·.about? category)).foldl (Sighting.moves (.readable own))
        ((Clients.onTheWay agent category wired.system).foldl (Sighting.moves (.readable own))
          (wired.system.catalogue.keys category)) := by
  have issued := happens.issued_eq
  obtain ⟨_, _, source, readable, timely⟩ := calm
  simp only [Wired.systemEvents_append, Clients.accepted_append, Clients.executions_append] at source readable timely
  rcases happens.system_cases with ⟨none, same⟩ | ⟨seen, only, happens⟩
  · -- The worker has not seen anything, so the browser has not reported anything either.
    rw [none] at issued
    rw [same, List.map_eq_nil_iff.mp issued.symm]
    rfl
  · rw [only] at issued source readable timely
    have receiving := Clients.isReceiving_of_isRunning runs.system (happens.isRunning_of_next running)
    have held := (Clients.serves_runs runs.system).catalogue
    have complete : wired.system.catalogue.Complete := held ▸ Catalogue.complete_run window _
    have fresh : ∀ execution ∈ executions [seen], ∀ record ∈ wired.system.catalogue.list category,
        record.expiredAt (execution.reading.clock category) = false := by
      intro execution member
      obtain ⟨front, back, split⟩ := List.append_of_mem member
      have alone : front = [] := by
        have short : (executions [seen]).length ≤ 1 := List.length_filterMap_le _ _
        rw [split, List.length_append, List.length_cons] at short
        exact List.length_eq_zero_iff.mp (by omega)
      rw [alone, List.nil_append] at split
      rw [held]
      exact timely _ execution back (by rw [split])
    have moved := Mdns.foldl_onTheWay happens running receiving complete concrete
      (fun envelope member => source envelope (List.mem_append_right _ member))
      (fun execution member => readable execution (List.mem_append_right _ member)) fresh
    rw [issued, ← List.map_map, List.filterMap_map] at moved
    exact moved

/-- And so are the keys of the table. -/
theorem Calm.keys_eq {event : WiredEvent ι} {next : Wired ι δ}
    (calm : Calm agent own window category (trace ++ [event]))
    (runs : Wired.Runs agent (.start window dispatcher requestSlots responder) trace wired)
    (happens : Wired.Happens agent wired event next) :
    next.browser.keys (.readable own) category =
      (((reports [event]).map Request.sighting).filterMap (·.about? category)).foldl (Sighting.moves (.readable own))
        (wired.browser.keys (.readable own) category) := by
  rcases happens.browser_cases with ⟨_, none, same⟩ | ⟨happening, only, reported, served⟩
  · rw [none, same]
    rfl
  · have proper := calm.proper
    have steady := calm.steady
    rw [Wired.happenings_append, only] at proper steady
    have past : wired.browser = (History.after responder (happenings trace)).browser := runs.browser
    have moved : (wired.browser.serve happening).1.keys (.readable own) category = _ := past ▸ keys_serve proper steady
    rw [served, moved, reported]
    cases (wired.browser.serve happening).2.report with
    | none => rfl
    | some sighting => cases about : (Request.sighting sighting).about? category <;> simp [about]

/-- What is on its way from the browser to the store, applied to the keys of the store, gives the keys of the table. -/
theorem keys_of_runs (runs : Wired.Runs agent (.start window dispatcher requestSlots responder) trace wired)
    (calm : Calm agent own window category trace) (concrete : category ≠ .unknown)
    (running : wired.system.phase.isRunning = true) :
    (Clients.onTheWay agent category wired.system).foldl (Sighting.moves (.readable own))
      (wired.system.catalogue.keys category) = wired.browser.keys (.readable own) category := by
  induction runs with
  | start =>
    have forgotten : (History.start responder).browser.resolved = [] := resolved_start responder
    have unlisted : (Catalogue.empty window).list category = [] := by
      cases category <;> rfl
    ext key
    simp [Wired.start, Clients.State.start, Clients.onTheWay, Clients.Phase.inHand, Channel.empty, Clients.Calling.unsent,
      Catalogue.keys, unlisted, Browser.keys, Browser.Holds, Browser.remembered?, forgotten]
  | next runs happens ih =>
    have before := ih calm.of_append (happens.isRunning_of_next running)
    rw [calm.foldl_onTheWay concrete runs happens running, before, calm.keys_eq runs happens]

/-- A deregistration repeats the last sighting reported of the service that was removed, unless it had been removed since,
and then there is none. In calm surroundings, once nothing is on its way any more, the store of a category lists the keys
of what the browser remembers of it, but for this host itself. -/
theorem store_mirrors_browser (agent : ι) (own : List Address) (window : Span) (dispatcher : Dispatcher δ)
    (requestSlots : Nat) (responder : Responder) :
    (∀ past : List Happening, (∀ happening ∈ past, happening.Proper) → ∀ earlier round later,
      (History.after responder past).rounds = earlier ++ round :: later →
      (∀ gone, round.report = some gone → gone.live = false → ∃ listener name last,
        round.happening = .arrival listener (.event (.removed name)) ∧ round.current = true ∧
        Sighted earlier name last ∧ last.category = listener.category ∧ gone = { last with live := false }) ∧
      ∀ name, round.happening.removes name → (∀ last, ¬ Sighted earlier name last) → round.report = none) ∧
    ∀ category ≠ .unknown, ∀ (trace : List (WiredEvent ι)) (wired : Wired ι δ),
      Wired.Runs agent (.start window dispatcher requestSlots responder) trace wired →
      Calm agent own window category trace → Wired.Idle agent wired → ∀ key,
      key ∈ (wired.system.catalogue.list category).map (·.key) ↔
        ∃ name sighting, wired.browser.remembered? name = some sighting ∧ sighting.category = category ∧
          (Interfaces.readable own).isLocal sighting.address = false ∧ sighting.key = key := by
  constructor
  · intro past proper earlier round later split
    refine ⟨fun gone reported dead => ?_, fun name removes never => unreported_of_unsighted split removes never⟩
    obtain ⟨listener, name, last, removed, current, sighted, rfl⟩ := repeats_of_deregistration split reported dead
    refine ⟨listener, name, last, removed, current, sighted, ?_, rfl⟩
    -- The name was sighted as one of the category on whose channel its removal arrives.
    obtain ⟨before, happening, rest, rfl, rfl, rfl⟩ := round_of_split split
    have names : happening.Proper := proper happening (by simp)
    have same : ((History.after responder before).browser.serve happening).2.happening = happening :=
      Wired.happening_of_serve rfl
    rw [same] at removed
    subst removed
    exact category_of_sighted (fun other member => proper other (List.mem_append_left _ member)) names sighted
  · intro category concrete trace wired runs calm idle key
    obtain ⟨receiving, unserved, uncalled⟩ := idle
    have running : wired.system.phase.isRunning = true := by rw [receiving]; rfl
    have arrived : Clients.onTheWay agent category wired.system = [] := by
      simp [Clients.onTheWay, receiving, unserved, uncalled, Clients.Phase.inHand, Clients.Calling.unsent]
    have mirrored := keys_of_runs runs calm concrete running
    rw [arrived] at mirrored
    exact Set.ext_iff.mp mirrored key

/-- A lamp on the local network. -/
def lamp : Announcement := ⟨"_wled._tcp.local.", "lamp", "lamp.local.", [.v4 #v[10, 0, 0, 7]], 80, [], false⟩

/-- The lamp is resolved, and its sighting gets through to the store; when it is removed, the sighting is repeated. -/
theorem store_mirrors_browser_resolved :
    let obeys : Responder := fun _ => .ok ()
    let start : Wired Unit Backend := .start Sighting.defaultWindow ⟨Backend.registry, .null, .unused⟩ 16 obeys
    let resolved : Happening := .arrival ⟨.wled, 1⟩ (.event (.resolved lamp))
    let removed : Happening := .arrival ⟨.wled, 1⟩ (.event (.removed lamp.fullName))
    ∃ sighting, lamp.sighting? .wled = some sighting ∧
      (∃ trace wired, Wired.Runs () start trace wired ∧ Wired.Idle () wired ∧
        sighting.key ∈ (wired.system.catalogue.list .wled).map (·.key)) ∧
      ∃ earlier round last, (History.after obeys [resolved, removed]).rounds = earlier ++ [round] ∧
        Sighted earlier lamp.fullName last ∧ round.report = some { last with live := false } := by
  intro obeys start resolved removed
  let sighting : Sighting := ⟨.wled, (Address.v4 #v[10, 0, 0, 7]).toText, 80, bareHostName "lamp.local.", true⟩
  let own : List Address := [.v4 #v[10, 0, 0, 2]]
  let moment : Moment := ⟨.epoch, .readable own⟩
  let envelope : Clients.Envelope Unit := ⟨0, .client (), .request (.sighting sighting)⟩
  have distant : (Interfaces.readable own).isLocal sighting.address = false :=
    Bool.eq_false_iff.mpr fun isLocal => absurd (Net.isLocal_toText.mp isLocal) (by decide)
  have fits : (moment.now.add? Sighting.defaultWindow).isSome = true := by decide
  obtain ⟨step, handled⟩ := start.system.catalogue.exists_handle moment.reading (.sighting sighting) fun _ => fits
  obtain ⟨unscanned, unasked⟩ := Worker.scans_of_sighting handled
  have quiet : step.scans ++ step.catalogue.runPending.scans = [] := by
    rw [unscanned, Catalogue.runPending, unasked]
    rfl
  have served : start.browser.serve resolved =
    (start.browser.remember lamp.fullName sighting, ⟨resolved, true, [], some sighting⟩) := rfl
  -- The browser reports the lamp and calls, the queue accepts the command, the worker serves it, and the call returns.
  let trace : List (WiredEvent Unit) := [.browser ⟨resolved, true, [], some sighting⟩, .system (.accept envelope),
    .system (.take envelope), .system (.serve ⟨envelope, .sighting sighting, moment.reading, step⟩), .system .rest,
    .system (.returned () (some 0) .done)]
  have runs : Wired.Runs () start [] start := .start
  have runs := runs.next (.reported served rfl (.call rfl))
  have runs := runs.next (.system (.enter rfl rfl : Clients.Happens _ (.accept envelope) _) trivial)
  have runs := runs.next (.system (.take rfl rfl) trivial)
  have runs := runs.next (.system (.serve rfl rfl handled) trivial)
  have runs := runs.next (.system (.rest (congrArg (Clients.Phase.scanning 0 []) quiet)) trivial)
  have runs := runs.next
    (.system (.finish rfl (.told rfl) : Clients.Happens _ (.returned () (some 0) .done) _) trivial)
  have runs : Wired.Runs () start trace _ := runs
  -- Only one service is ever resolved, and no other client says anything.
  have once {name : String} {found : Sighting} (taken : Resolved (happenings trace) name found) :
      name = lamp.fullName ∧ found = sighting := by
    obtain ⟨listener, service, member, named, this⟩ := taken
    obtain ⟨rfl, rfl⟩ : listener = ⟨.wled, 1⟩ ∧ service = lamp := by
      simpa [happenings, trace, resolved] using member
    exact ⟨named.symm, (Option.some.inj this).symm⟩
  have calm : Calm () own Sighting.defaultWindow .wled trace := {
    proper := fun happening member => by
      rw [List.mem_singleton.mp member]
      exact ⟨"lamp", "_wled._tcp.local.", rfl, rfl⟩
    steady := fun name other found another first second _ _ => by
      obtain ⟨rfl, rfl⟩ := once first
      obtain ⟨rfl, rfl⟩ := once second
      exact ⟨fun _ => ⟨rfl, rfl⟩, fun _ => rfl⟩
    source := fun held member _ _ => by
      rw [List.mem_singleton.mp member]
    readable := fun execution member => by
      rw [List.mem_singleton.mp member]
      rfl
    timely := fun earlier execution later split => by
      have split : [_] = earlier ++ execution :: later := split
      obtain rfl : earlier = [] := by
        cases earlier with
        | nil => rfl
        | cons => simp at split
      exact fun _ member => absurd member List.not_mem_nil
  }
  have names : Names .wled lamp.fullName := ⟨"lamp", "_wled._tcp.local.", rfl, rfl⟩
  obtain ⟨repeats, mirrors⟩ :=
    store_mirrors_browser () own Sighting.defaultWindow ⟨Backend.registry, .null, .unused⟩ 16 obeys
  refine ⟨sighting, rfl, ⟨trace, _, runs, ⟨rfl, rfl, rfl⟩, ?_⟩, ?_⟩
  · have mirrored := mirrors .wled (by decide) trace _ runs calm ⟨rfl, rfl, rfl⟩ sighting.key
    exact mirrored.mpr ⟨lamp.fullName, sighting, rfl, rfl, distant, rfl⟩
  · have proper : ∀ happening ∈ [resolved, removed], happening.Proper := by
      simp [resolved, removed, Happening.Proper, names]
    have repeated := (repeats [resolved, removed] proper [_] _ [] rfl).1 _ rfl rfl
    obtain ⟨listener, name, last, same, _, sighted, _, gone⟩ := repeated
    cases same
    exact ⟨_, _, last, rfl, sighted, congrArg some gone⟩

end

end Mdns

end Discovery
