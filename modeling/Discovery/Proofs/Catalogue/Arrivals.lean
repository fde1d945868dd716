import Discovery.Proofs.Catalogue.Locality
import Discovery.Proofs.Fingerprint.Canonical
/-!
# Sightings in any order

What a sighting comes to depends on what is held under its key, and it changes nothing under any other key. Of
sightings under different keys that arrive at one moment, each therefore comes to what it would come to if it were
the only one, whichever arrives first. Only the order of the lists tells the order of arrival, and the fingerprint
forgets it.
-/
namespace Discovery

open Net (Interfaces)
open Time (Instant Span)

/-! ## One sighting -/

namespace Sighting

/-- The entries under the key of a sighting after it, if it is not refused, and what it comes to. -/
def settle (sighting : Sighting) (expiry : Instant) : List Record → List Record × MergeOutcome
  | [] => if sighting.live then ([{ sighting with expiry }], .added) else ([], .ignored)
  | held :: rest =>
    if sighting.live then ((held :: rest).map fun record => { record with expiry }, .refreshed) else ([], .removed)

end Sighting

namespace Store

variable {store next : Store} {incoming : Sighting} {interfaces : Interfaces} {window : Span} {now : Instant}
  {outcome : MergeOutcome}

theorem filter_key_eq_nil_iff {records : List Record} {key : Key} :
    records.filter (·.key = key) = [] ↔ key ∉ records.map (·.key) := by
  simp [List.filter_eq_nil_iff]

theorem settle_merges (merges : Merges store incoming interfaces window now next outcome) (sound : store.Sound)
    (accepted : incoming.Accepted store.category interfaces) {expiry : Instant} (due : now.add? window = some expiry) :
    incoming.settle expiry (store.records.filter (·.key = incoming.key)) =
      (next.records.filter (·.key = incoming.key), outcome) := by
  -- In each case the key tells whether there is an entry, and liveness what becomes of it.
  cases merges with
  | refused refused => exact absurd accepted refused
  | @refreshed deadline _ live set held =>
    obtain rfl : expiry = deadline := Option.some.inj (due.symm.trans set)
    have renewed : (renewFirst incoming.key expiry store.records).filter (·.key = incoming.key) =
        (store.records.filter (·.key = incoming.key)).map fun record => { record with expiry } := by
      rw [renewFirst_eq_map sound.unique, List.filter_map]
      simp only [Function.comp_def, Record.key_renewUnder]
      exact List.map_congr_left fun record member => if_pos (by simpa using List.of_mem_filter member)
    rw [renewed]
    cases present : store.records.filter (·.key = incoming.key) with
    | nil => exact absurd held (filter_key_eq_nil_iff.mp present)
    | cons record rest => simp [Sighting.settle, live]
  | @added deadline _ live set absent =>
    obtain rfl : expiry = deadline := Option.some.inj (due.symm.trans set)
    rw [List.filter_append, filter_key_eq_nil_iff.mpr absent]
    simp [Sighting.settle, live]
  | removed _ gone held =>
    have dropped : (store.records.filter (·.key ≠ incoming.key)).filter (·.key = incoming.key) = [] := by
      simp [List.filter_filter]
    rw [dropped]
    cases present : store.records.filter (·.key = incoming.key) with
    | nil => exact absurd held (filter_key_eq_nil_iff.mp present)
    | cons record rest => simp [Sighting.settle, gone]
  | unmatched _ gone absent =>
    rw [filter_key_eq_nil_iff.mpr absent]
    simp [Sighting.settle, gone]

theorem eq_of_refused (merges : Merges store incoming interfaces window now next outcome)
    (refused : ¬ incoming.Accepted store.category interfaces) : next = store ∧ outcome = .ignored := by
  cases merges with
  | refused => exact ⟨rfl, rfl⟩
  | refreshed accepted | added accepted | removed accepted | unmatched accepted => exact absurd accepted refused

end Store

namespace Catalogue

variable {catalogue : Catalogue}

/-- What a sighting comes to. Without a concrete category it comes to nothing. -/
def outcome (catalogue : Catalogue) (reading : Reading) (incoming : Sighting) : Except Overflow MergeOutcome :=
  match catalogue.store? incoming.category with
  | none => .ok .ignored
  | some store =>
    (store.merge incoming reading.interfaces catalogue.window (reading.clock incoming.category)).map Merge.outcome

/-- The entries under the key of a sighting after it and what it comes to, by the entries of before. Nothing is accepted
of the sentinel category or of this host. -/
def effect (catalogue : Catalogue) (moment : Moment) (expiry : Instant) (incoming : Sighting) :
    List Record × MergeOutcome :=
  if incoming.category = .unknown ∨ moment.interfaces.isLocal incoming.address = true then
    (catalogue.entries incoming.key, .ignored)
  else incoming.settle expiry (catalogue.entries incoming.key)

/-- A sighting that arrives at a moment. -/
def arrival (moment : Moment) (incoming : Sighting) : Operation := .request (.sighting incoming) moment.reading

theorem Sound.store?_sentinel (sound : catalogue.Sound) : catalogue.store? .unknown = none := by
  cases found : catalogue.store? .unknown with
  | none => rfl
  | some store =>
    have concrete := sound.complete.concrete (List.mem_of_find?_eq_some found)
    exact absurd (category_of_store? found) concrete

/-- A sighting leaves alone whatever is under another key. -/
theorem Sound.entries_of_other (sound : catalogue.Sound) (moment : Moment) {incoming : Sighting} {key : Key}
    (different : incoming.key ≠ key) :
    (catalogue.perform (arrival moment incoming)).catalogue.entries key = catalogue.entries key := by
  by_cases sentinel : key.category = .unknown
  · rw [sound.entries_sentinel sentinel, (sound_perform sound _).entries_sentinel sentinel]
  · obtain ⟨store, found⟩ := sound.complete.exists_store sentinel
    rw [sound.entries_after _ found, sound.entries_eq found]
    apply Store.after_sighting_cases (motive := fun next => next.records.filter (·.key = key) = _) rfl
    intro next outcome merges
    exact Store.filter_merges merges fun same => absurd same different

/-- A sighting has its effect on the entries under its own key. -/
theorem Sound.effect_of_arrival (sound : catalogue.Sound) {moment : Moment} {expiry : Instant}
    (due : moment.now.add? catalogue.window = some expiry) (incoming : Sighting) :
    ∃ outcome, catalogue.outcome moment.reading incoming = .ok outcome ∧
      catalogue.effect moment expiry incoming =
        ((catalogue.perform (arrival moment incoming)).catalogue.entries incoming.key, outcome) := by
  by_cases sentinel : incoming.category = .unknown
  · refine ⟨.ignored, ?_, ?_⟩
    · rw [outcome, sentinel, sound.store?_sentinel]
    · rw [effect, if_pos (.inl sentinel), sound.entries_sentinel sentinel,
        (sound_perform sound _).entries_sentinel sentinel]
  · -- There is a store for every other category, and the deadline is representable, so the sighting is merged.
    obtain ⟨store, found⟩ : ∃ store, catalogue.store? incoming.key.category = some store :=
      sound.complete.exists_store sentinel
    have own : store.category = incoming.category := category_of_store? found
    have merges : ∃ merge, store.merge incoming moment.interfaces catalogue.window moment.now = .ok merge :=
      Store.exists_merge fun _ _ => by simp [due]
    obtain ⟨merge, merged⟩ := merges
    have merges := Store.merges_of_merge merged
    have after : store.after catalogue.window (arrival moment incoming) = merge.store := by
      simp only [arrival, Store.after, Moment.reading, merged]
    refine ⟨merge.outcome, ?_, ?_⟩
    · have asked : catalogue.store? incoming.category = some store := found
      simp only [outcome, asked, Moment.reading, merged]
      rfl
    · rw [sound.entries_after _ found, after]
      by_cases isLocal : moment.interfaces.isLocal incoming.address = true
      · obtain ⟨kept, ignored⟩ := Store.eq_of_refused merges fun accepted => by simp [accepted.2] at isLocal
        rw [effect, if_pos (.inr isLocal), sound.entries_eq found, kept, ignored]
      · rw [effect, if_neg (by simp [sentinel, isLocal]), sound.entries_eq found]
        have kept : store.Sound := sound.stores store (List.mem_of_find?_eq_some found)
        exact Store.settle_merges merges kept ⟨own.symm, by simpa using isLocal⟩ due

/-! ## A batch -/

/-- What sightings that arrive one after the other come to. -/
def outcomes (catalogue : Catalogue) (moment : Moment) : List Sighting → List (Sighting × Except Overflow MergeOutcome)
  | [] => []
  | incoming :: rest =>
    (incoming, catalogue.outcome moment.reading incoming) ::
      (catalogue.perform (arrival moment incoming)).catalogue.outcomes moment rest

/-- The sighting has changed the members of the category, so it has been announced. -/
def tells (category : Category) : Sighting × Except Overflow MergeOutcome → Bool
  | (incoming, .ok outcome) => incoming.category = category && outcome.changed
  | (_, .error _) => false

/-- A category is announced once for every sighting that has changed its members. -/
theorem length_announced_arrival (catalogue : Catalogue) (moment : Moment) (incoming : Sighting) (category : Category) :
    ((catalogue.perform (arrival moment incoming)).announced category).length =
      if tells category (incoming, catalogue.outcome moment.reading incoming) then 1 else 0 := by
  rw [arrival, perform_sighting]
  cases found : catalogue.store? incoming.category with
  | none => simp [outcome, found, tells, Step.announced, idle, MergeOutcome.changed]
  | some store =>
    dsimp only
    cases merged : store.merge incoming moment.reading.interfaces catalogue.window
      (moment.reading.clock incoming.category) with
    | error overflow => simp [outcome, found, merged, tells, Step.announced, idle, Except.map]
    | ok merge =>
      have comes : catalogue.outcome moment.reading incoming = .ok merge.outcome := by
        simp only [outcome, found, merged]
        rfl
      rw [comes]
      by_cases changed : merge.outcome.changed = true
      · by_cases same : incoming.category = category <;> simp [tells, Step.announced, announce, changed, same]
      · simp [tells, Step.announced, idle, changed]

theorem length_announced_arrivals (catalogue : Catalogue) (moment : Moment) (batch : List Sighting)
    (category : Category) :
    ((catalogue.run (batch.map (arrival moment))).announced category).length =
      (catalogue.outcomes moment batch).countP (tells category) := by
  induction batch generalizing catalogue with
  | nil => rfl
  | cons incoming rest ih =>
    rw [List.map_cons, run, Step.announced_andThen, List.length_append, length_announced_arrival, ih, outcomes,
      List.countP_cons, Nat.add_comm]

variable {moment : Moment} {expiry : Instant} {batch other : List Sighting}

/-- Sightings under different keys all come to what they would come to alone, and each leaves under its key what it
would leave alone. -/
theorem Sound.effects_of_arrivals (distinct : (batch.map (·.key)).Nodup) (sound : catalogue.Sound)
    (due : moment.now.add? catalogue.window = some expiry) :
    let after := (catalogue.run (batch.map (arrival moment))).catalogue
    catalogue.outcomes moment batch =
      batch.map (fun incoming => (incoming, .ok (catalogue.effect moment expiry incoming).2)) ∧
    (∀ incoming ∈ batch, after.entries incoming.key = (catalogue.effect moment expiry incoming).1) ∧
    ∀ key ∉ batch.map (·.key), after.entries key = catalogue.entries key := by
  induction batch generalizing catalogue with
  | nil => exact ⟨rfl, by simp, fun key _ => rfl⟩
  | cons first rest ih =>
    obtain ⟨absent, distinct⟩ := List.nodup_cons.mp distinct
    obtain ⟨outcome, comes, leaves⟩ := sound.effect_of_arrival due first
    have window : (catalogue.perform (arrival moment first)).catalogue.window = catalogue.window :=
      (pointwise_perform sound.complete _).window
    obtain ⟨outcomes, inside, outside⟩ :=
      ih distinct (sound_perform sound (arrival moment first)) (window ▸ due)
    -- To the sightings behind it the first one has changed nothing, since it has another key.
    have untouched : ∀ incoming ∈ rest, (catalogue.perform (arrival moment first)).catalogue.effect moment expiry incoming =
        catalogue.effect moment expiry incoming := by
      intro incoming member
      have different : first.key ≠ incoming.key := fun same => absent (List.mem_map.mpr ⟨incoming, member, same.symm⟩)
      rw [effect, effect, sound.entries_of_other moment different]
    refine ⟨?_, ?_, ?_⟩
    · rw [Catalogue.outcomes, outcomes, comes, List.map_cons, leaves]
      refine congrArg _ (List.map_congr_left fun incoming member => ?_)
      rw [untouched incoming member]
    · intro incoming member
      rcases List.mem_cons.mp member with rfl | later
      · rw [leaves]
        exact outside incoming.key absent
      · rw [← untouched incoming later]
        exact inside incoming later
    · intro key foreign
      rw [List.map_cons, List.mem_cons, not_or] at foreign
      rw [← sound.entries_of_other moment (Ne.symm foreign.1)]
      exact outside key foreign.2

theorem mem_all_iff_mem_entries {catalogue : Catalogue} {record : Record} :
    record ∈ catalogue.all ↔ record ∈ catalogue.entries record.key := by
  simp [entries]

/-- Catalogues with the same entries under every key hold the same, but for its order. -/
theorem Sound.perm_of_entries {left right : Catalogue} (leftSound : left.Sound) (rightSound : right.Sound)
    (same : ∀ key, left.entries key = right.entries key) : left.all.Perm right.all := by
  apply (List.perm_ext_iff_of_nodup (.of_map _ leftSound.nodup_keys) (.of_map _ rightSound.nodup_keys)).mpr
  intro record
  rw [mem_all_iff_mem_entries, mem_all_iff_mem_entries, same]

theorem Sound.entries_of_reordered (sound : catalogue.Sound) (due : moment.now.add? catalogue.window = some expiry)
    (distinct : (batch.map (·.key)).Nodup) (reordered : batch.Perm other) (key : Key) :
    (catalogue.run (batch.map (arrival moment))).catalogue.entries key =
      (catalogue.run (other.map (arrival moment))).catalogue.entries key := by
  have keys : (batch.map (·.key)).Perm (other.map (·.key)) := reordered.map _
  obtain ⟨_, inside, outside⟩ := sound.effects_of_arrivals distinct due
  obtain ⟨_, within, without⟩ := sound.effects_of_arrivals (keys.nodup_iff.mp distinct) due
  by_cases sighted : key ∈ batch.map (·.key)
  · obtain ⟨incoming, member, rfl⟩ := List.mem_map.mp sighted
    rw [inside incoming member, within incoming (reordered.mem_iff.mp member)]
  · rw [outside key sighted, without key (mt keys.mem_iff.mpr sighted)]

/-- What is published stays right as a run goes on. -/
theorem current_run (complete : catalogue.Complete) (current : catalogue.fingerprint = Discovery.fingerprint catalogue.all)
    (operations : List Operation) :
    (catalogue.run operations).catalogue.fingerprint = Discovery.fingerprint (catalogue.run operations).catalogue.all := by
  have both := run_induction (motive := fun next =>
    next.Complete ∧ next.fingerprint = Discovery.fingerprint next.all) ⟨complete, current⟩
    (fun _ operation ⟨complete, current⟩ =>
      ⟨complete_perform complete operation, (pointwise_perform complete operation).published current⟩) operations
  exact both.2

/-- Sightings and deregistrations under different keys that arrive at one moment may arrive in any order: each comes to
the same, the same records are held after them, host names and deadlines included, as many changes of each category are
announced, and the same fingerprint is published. -/
theorem arrivals_in_any_order (window : Span) (operations : List Operation) (moment : Moment)
    (fits : (moment.now.add? window).isSome = true) {batch other : List Sighting}
    (distinct : (batch.map (·.key)).Nodup) (reordered : batch.Perm other) :
    let catalogue := ((empty window).run operations).catalogue
    let left := catalogue.run (batch.map (arrival moment))
    let right := catalogue.run (other.map (arrival moment))
    (∃ outcome : Sighting → MergeOutcome,
      catalogue.outcomes moment batch = batch.map (fun incoming => (incoming, .ok (outcome incoming))) ∧
      catalogue.outcomes moment other = other.map fun incoming => (incoming, .ok (outcome incoming))) ∧
    left.catalogue.all.Perm right.catalogue.all ∧
    (∀ category, (left.announced category).length = (right.announced category).length) ∧
    left.catalogue.fingerprint = right.catalogue.fingerprint := by
  intro catalogue left right
  have sound : catalogue.Sound := sound_run window operations
  have current : catalogue.fingerprint = Discovery.fingerprint catalogue.all :=
    current_run (complete_empty window) rfl operations
  have same : catalogue.window = window := window_run (complete_empty window) operations
  obtain ⟨expiry, due⟩ := Option.isSome_iff_exists.mp fits
  rw [← same] at due
  -- Neither order of arrival shows in what a sighting comes to alone.
  have outcomes := (sound.effects_of_arrivals distinct due).1
  have others := (sound.effects_of_arrivals ((reordered.map _).nodup_iff.mp distinct) due).1
  have held : left.catalogue.all.Perm right.catalogue.all :=
    (sound.run _).perm_of_entries (sound.run _) (sound.entries_of_reordered due distinct reordered)
  refine ⟨⟨fun incoming => (catalogue.effect moment expiry incoming).2, outcomes, others⟩, held, ?_, ?_⟩
  · intro category
    rw [length_announced_arrivals, length_announced_arrivals, outcomes, others]
    exact (reordered.map _).countP_eq _
  · rw [current_run sound.complete current, current_run sound.complete current]
    exact fingerprint_eq_of_perm (sound.run _).nodup_keys (held.map _)

/-- A lamp is held, and there arrive another sighting of it, the deregistration of a bridge, two boards and this host
itself, or the same in the opposite order. The boards are then listed in the opposite order. -/
theorem arrivals_in_any_order_boards :
    let moment (second : Int) : Moment := ⟨(Instant.ofParts? second 0).getD .epoch, .readable [.v4 #v[10, 0, 0, 2]]⟩
    let lamp : Sighting := ⟨.wled, "10.0.0.5", 80, "attic", true⟩
    let bridge : Sighting := ⟨.hue, "10.0.0.6", 443, "cellar", true⟩
    let earlier : List Operation := [arrival (moment 0) lamp, arrival (moment 1) bridge]
    let batch : List Sighting := [{ lamp with hostName := "loft" }, { bridge with live := false },
      ⟨.pico, "/dev/ttyACM0", 0, "", true⟩, ⟨.pico, "/dev/ttyACM1", 0, "", true⟩, ⟨.hue, "10.0.0.2", 443, "", true⟩]
    let catalogue := ((empty (.ofSeconds 10)).run earlier).catalogue
    let after (batch : List Sighting) := (catalogue.run (batch.map (arrival (moment 5)))).catalogue
    ((moment 5).now.add? (.ofSeconds 10)).isSome = true ∧ (batch.map (·.key)).Nodup ∧ batch.Perm batch.reverse ∧
    (catalogue.outcomes (moment 5) batch).map (·.2.toOption) =
      [some .refreshed, some .removed, some .added, some .added, some .ignored] ∧
    (after batch).all ≠ (after batch.reverse).all ∧ (after batch).all.Perm (after batch.reverse).all ∧
    (after batch).fingerprint = (after batch.reverse).fingerprint := by
  intro moment lamp bridge earlier batch catalogue after
  have fits : ((moment 5).now.add? (.ofSeconds 10)).isSome = true := by decide +kernel
  have distinct : (batch.map (·.key)).Nodup := by decide +kernel
  have reordered : batch.Perm batch.reverse := (List.reverse_perm batch).symm
  obtain ⟨_, held, _, published⟩ :=
    arrivals_in_any_order (.ofSeconds 10) earlier (moment 5) fits distinct reordered
  refine ⟨fits, distinct, reordered, by decide +kernel, by decide +kernel, held, ?_⟩
  simpa only [after, catalogue] using published

end Catalogue

end Discovery
