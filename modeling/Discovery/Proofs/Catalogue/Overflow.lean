import Discovery.Proofs.Config.Sections
import Discovery.Proofs.Catalogue.Run
import Discovery.Proofs.Time.Reach
/-!
# Deadlines that are not representable

A sighting fails if it has to set a deadline that is not representable. What it has changed by then stays changed, so it
matters what comes first. In the order in which the steps of a sighting are taken, nothing has been changed when the
deadline is computed; after a failure all is as it was. A configuration admits windows of at most a day, and with these
nothing fails until the last day of the calendar.
-/
namespace Discovery

open Net (Interfaces)
open Time (Instant Span Representable)

/-! ## Steps that change a state and may fail -/

/-- The result and the state in which it leaves, which after a failure is the one that had been reached. -/
abbrev InPlace (σ α : Type) := ExceptT Overflow (StateM σ) α

namespace InPlace

variable {σ α β : Type} (state : σ)

/-- Takes the steps, beginning in a state. -/
def perform (steps : InPlace σ α) (state : σ) : Except Overflow α × σ := (steps.run.run state : Id _)

theorem perform_pure (value : α) : (pure value : InPlace σ α).perform state = (.ok value, state) := rfl

theorem perform_get (next : σ → InPlace σ β) : (get >>= next).perform state = (next state).perform state := rfl

theorem perform_modify (change : σ → σ) (next : Unit → InPlace σ β) :
    (modify change >>= next).perform state = (next ()).perform (change state) := rfl

theorem perform_ok (value : α) (next : α → InPlace σ β) :
    ((liftExcept (.ok value : Except Overflow α) : InPlace σ α) >>= next).perform state =
      (next value).perform state := rfl

theorem perform_error (overflow : Overflow) (next : α → InPlace σ β) :
    ((liftExcept (.error overflow : Except Overflow α) : InPlace σ α) >>= next).perform state =
      (.error overflow, state) := rfl

end InPlace

/-! ## Sightings, step by step -/

namespace Store

/-- A merge in the order of its steps, each of which changes the store where it is. A removal shows in the number of
records. -/
def mergeInPlace (incoming : Sighting) (interfaces : Interfaces) (window : Span) (now : Instant) :
    InPlace Store MergeOutcome := do
  let store ← get
  if incoming.category ≠ store.category then return .ignored
  if interfaces.isLocal incoming.address then return .ignored
  if incoming.live then
    if (store.find? incoming.key).isSome then
      let expiry ← liftExcept (deadline now window)
      modify fun store => { store with records := renewFirst incoming.key expiry store.records }
      return .refreshed
    let expiry ← liftExcept (deadline now window)
    modify fun store => { store with records := store.records ++ [{ incoming with expiry }] }
    return .added
  modify fun store => { store with records := store.records.filter (·.key ≠ incoming.key) }
  if (← get).records.length = store.records.length then return .ignored
  return .removed

variable {store : Store} {incoming : Sighting} {interfaces : Interfaces} {window : Span} {now : Instant}

/-- The number of records shows whether there was one to be removed. -/
theorem length_filter_key_iff {key : Key} :
    (store.records.filter (·.key ≠ key)).length = store.records.length ↔ store.find? key = none := by
  rw [find?_eq_none_iff, List.length_filter_eq_length_iff]
  simp

theorem perform_mergeInPlace (store : Store) : (mergeInPlace incoming interfaces window now).perform store =
    match store.merge incoming interfaces window now with
    | .ok merge => (.ok merge.outcome, merge.store)
    | .error overflow => (.error overflow, store) := by
  unfold mergeInPlace merge
  rw [InPlace.perform_get]
  by_cases own : incoming.category = store.category
  · by_cases isLocal : interfaces.isLocal incoming.address = true
    · simp only [own, isLocal, ne_eq, not_true_eq_false, if_false, if_true, InPlace.perform_pure]
    · cases live : incoming.live with
      | true =>
        -- The deadline is computed before the store is changed.
        cases found : store.find? incoming.key <;> cases due : deadline now window <;>
          simp only [own, isLocal, found, sight, ne_eq, not_true_eq_false, if_false, if_true, Bool.false_eq_true,
            Option.isSome_none, Option.isSome_some, InPlace.perform_ok, InPlace.perform_error, InPlace.perform_modify,
            InPlace.perform_pure] <;>
          rfl
      | false =>
        cases found : store.find? incoming.key with
        | none =>
          have kept := length_filter_key_iff.mpr found
          have same := List.filter_sublist.eq_of_length kept
          simp only [own, isLocal, not_true_eq_false, if_false, Bool.false_eq_true, InPlace.perform_modify,
            InPlace.perform_get, deregister, found, if_true, InPlace.perform_pure, same, ne_eq]
        | some held =>
          have present : ¬ store.find? incoming.key = none := by simp [found]
          have fewer := mt length_filter_key_iff.mp present
          simp only [own, isLocal, ne_eq, not_true_eq_false, if_false, Bool.false_eq_true, InPlace.perform_modify,
            InPlace.perform_get, fewer, deregister, found, InPlace.perform_pure]
  · simp only [own, ne_eq, not_false_eq_true, if_true, InPlace.perform_pure]

end Store

namespace Catalogue

/-- A sighting in the order of its steps: the store is changed where it is, and then the change is announced. -/
def sightInPlace (reading : Reading) (incoming : Sighting) : InPlace (Catalogue × List Change) Unit := do
  let (catalogue, _) ← get
  match catalogue.store? incoming.category with
  | none => return
  | some store =>
    let merging := Store.mergeInPlace incoming reading.interfaces catalogue.window (reading.clock incoming.category)
    let (result, merged) := merging.perform store
    modify fun (catalogue, changes) => (catalogue.replace merged, changes)
    let outcome ← liftExcept result
    if outcome.changed then
      modify fun (catalogue, changes) =>
        let step := catalogue.announce incoming.category []
        (step.catalogue, changes ++ step.changes)

variable {catalogue : Catalogue} {reading : Reading} {incoming : Sighting} {changes : List Change}

/-- The steps of a sighting come to what handling it does, and if they fail to nothing at all. -/
theorem perform_sightInPlace (complete : catalogue.Complete) :
    (sightInPlace reading incoming).perform (catalogue, changes) =
      match catalogue.handle reading (.sighting incoming) with
      | .ok step => (.ok (), step.catalogue, changes ++ step.changes)
      | .error overflow => (.error overflow, catalogue, changes) := by
  unfold sightInPlace
  rw [InPlace.perform_get]
  simp only [handle, sight]
  cases found : catalogue.store? incoming.category with
  | none => simp only [InPlace.perform_pure, idle, List.append_nil]
  | some store =>
    simp only [Store.perform_mergeInPlace]
    cases store.merge incoming reading.interfaces catalogue.window (reading.clock incoming.category) with
    | error overflow =>
      -- The store that is put back is the one that was taken.
      simp only [InPlace.perform_modify, InPlace.perform_error, complete.replace_self found]
      rfl
    | ok merge =>
      simp only [InPlace.perform_modify, InPlace.perform_ok]
      cases changed : merge.outcome.changed with
      | true =>
        simp only [bind, Except.bind, changed, if_true]
        rfl
      | false =>
        simp [bind, Except.bind, changed, pure, Except.pure, idle]
        rfl

end Catalogue

/-! ## Windows that are configured -/

namespace Config

/-- The window of a configuration that is accepted is within its range, whatever else the text says. -/
theorem window_of_ofText {text : String} {config : Config} (accepted : ofText text = .ok config) :
    1 ≤ config.discovery.ttlWindow ∧ config.discovery.ttlWindow ≤ DiscoverySettings.greatestWindow := by
  unfold ofText at accepted
  cases parsed : Toml.ofText? text with
  | none => simp [parsed] at accepted
  | some table =>
    have described : ofTable table = .ok config := by
      simp only [parsed] at accepted
      split at accepted
      · cases accepted
      · exact accepted
    unfold ofTable at described
    split at described
    · cases described
    · obtain ⟨rfl, within⟩ := check_eq_ok_iff.mp described
      exact within

end Config

/-- A window in its range is neither cut short nor changed by counting it in signed seconds. -/
theorem DiscoverySettings.window_eq {settings : DiscoverySettings} (within : settings.ttlWindow ≤ greatestWindow) :
    settings.window = .ofSeconds settings.ttlWindow ∧
      (UInt64.ofNat (min settings.ttlWindow greatestWindow)).toInt64.toInt = settings.ttlWindow := by
  constructor
  · rw [window, Int.min_eq_left (Int.ofNat_le.mpr within)]
  · have small : settings.ttlWindow < 2 ^ 63 := Nat.lt_of_le_of_lt within (by decide)
    rw [Nat.min_eq_left within, UInt64.toInt64_ofNat', Int64.toInt_ofNat_of_lt small]

/-! ## What fails -/

/-- The sighting sets a deadline, and that is not representable. -/
def Sighting.Overflows (incoming : Sighting) (window : Span) (reading : Reading) : Prop :=
  (incoming.category ≠ .unknown ∧ incoming.live = true ∧ reading.interfaces.isLocal incoming.address = false) ∧
    ¬ Representable ((reading.clock incoming.category).target window)

namespace Catalogue

theorem fails_iff_overflows (window : Span) (operations : List Operation) {reading : Reading} {incoming : Sighting} :
    ((empty window).run operations).catalogue.handle reading (.sighting incoming) = .error .deadline ↔
      incoming.Overflows window reading := by
  rw [sighting_eq_error_iff (complete_run window operations), Time.Instant.add?_eq_none_iff,
    window_run (complete_empty window) operations]
  rfl

/-- A request fails only if it is a sighting whose deadline is not representable, and then it has changed nothing and
announced nothing. With the window of a configuration that is accepted this cannot happen before the last day. The
other operation, to trigger the scans that are due, is a step in any case and cannot fail. -/
theorem only_overflows_fail (window : Span) (operations : List Operation) (reading : Reading) :
    let catalogue := ((empty window).run operations).catalogue
    (∀ incoming changes,
      (catalogue.handle reading (.sighting incoming) = .error .deadline ↔ incoming.Overflows window reading) ∧
      (incoming.Overflows window reading →
        (sightInPlace reading incoming).perform (catalogue, changes) = (.error .deadline, catalogue, changes) ∧
        catalogue.perform (.request (.sighting incoming) reading) = catalogue.idle)) ∧
    (∀ request, (∀ incoming, request ≠ .sighting incoming) → ∃ step, catalogue.handle reading request = .ok step) ∧
    ∀ text config, Config.ofText text = .ok config →
      config.discovery.window = .ofSeconds config.discovery.ttlWindow ∧
      (UInt64.ofNat (min config.discovery.ttlWindow DiscoverySettings.greatestWindow)).toInt64.toInt =
        config.discovery.ttlWindow ∧
      (window = config.discovery.window →
        (∀ category, (reading.clock category).seconds + Time.secondsPerDay ≤ Time.latest) →
        ∀ request, ∃ step, catalogue.handle reading request = .ok step) := by
  intro catalogue
  have complete : catalogue.Complete := complete_run window operations
  refine ⟨fun incoming changes => ⟨fails_iff_overflows window operations, fun overflows => ?_⟩, ?_, ?_⟩
  · have failed : catalogue.handle reading (.sighting incoming) = .error .deadline :=
      (fails_iff_overflows window operations).mpr overflows
    exact ⟨by rw [perform_sightInPlace complete, failed], by simp only [perform, failed]⟩
  · intro request other
    cases request with
    | sighting incoming => exact absurd rfl (other incoming)
    | _ => exact ⟨_, rfl⟩
  · intro text config accepted
    obtain ⟨least, greatest⟩ := Config.window_of_ofText accepted
    obtain ⟨whole, same⟩ := DiscoverySettings.window_eq greatest
    refine ⟨whole, same, fun configured early request => exists_handle catalogue reading request fun category => ?_⟩
    rw [window_run (complete_empty window) operations, Time.Instant.isSome_add?]
    show Representable ((reading.clock category).target window)
    rw [configured, whole]
    -- The longest window is a day, and a day before the last second there is room for it.
    simp only [DiscoverySettings.greatestWindow] at greatest
    refine Time.Instant.representable_target ?_ ?_ (early category) <;>
      simp only [Span.ofSeconds, Time.billion, Time.secondsPerDay] <;> omega

/-- In the last second the longest window that can be configured is too long, and a day before it is not. -/
theorem overflow_on_last_day :
    let last : Reading := ⟨fun _ => ⟨Time.latest, 0, by decide, by decide⟩, .readable []⟩
    let before : Reading :=
      ⟨fun _ => ⟨Time.latest - Time.secondsPerDay, 0, by decide, by decide⟩, .readable []⟩
    let incoming : Sighting := ⟨.wled, "10.0.0.2", 80, "wled-kitchen.local.", true⟩
    ∃ config, Config.ofText "discovery.ttl_window_secs=86400" = .ok config ∧
      let catalogue := empty config.discovery.window
      (sightInPlace last incoming).perform (catalogue, []) = (.error .deadline, catalogue, []) ∧
      ∀ request, ∃ step, catalogue.handle before request = .ok step := by
  intro last before incoming
  have read : (Config.ofText "discovery.ttl_window_secs=86400").toOption.map (·.discovery) =
      some { DiscoverySettings.default with ttlWindow := 86400 } := by decide +kernel
  cases accepted : Config.ofText "discovery.ttl_window_secs=86400" with
  | error => simp [accepted, Except.toOption] at read
  | ok config =>
    have settings : config.discovery = { DiscoverySettings.default with ttlWindow := 86400 } := by
      simpa [accepted, Except.toOption] using read
    have overflows : incoming.Overflows config.discovery.window last := by
      rw [settings]
      exact ⟨by decide +kernel, by decide +kernel⟩
    refine ⟨config, rfl, ?_, ?_⟩
    · exact (((only_overflows_fail config.discovery.window [] last).1 incoming []).2 overflows).1
    · exact ((only_overflows_fail config.discovery.window [] before).2.2 _ config accepted).2.2 rfl fun _ =>
        Int.le_of_eq (Int.sub_add_cancel _ _)

end Catalogue

end Discovery
