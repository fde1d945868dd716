import Discovery.Proofs.Catalogue.Keys
import Discovery.Proofs.Clients.Order
/-!
# Sightings served one after the other

What is sighted is merged in the order in which it is served. Each sighting is announced at most once, and always if it is
of something that has not been listed.
-/
namespace Discovery

open Time (Span)

/-- Merge sightings one after the other, each with what is read then. -/
def Store.mergeAll (store : Store) (window : Span) : List (Sighting × Reading) → Except Overflow Store
  | [] => .ok store
  | (incoming, reading) :: rest => do
    let merge ← store.merge incoming reading.interfaces window (reading.clock incoming.category)
    merge.store.mergeAll window rest

namespace Catalogue

variable {catalogue : Catalogue} {reading : Reading} {incoming : Sighting} {step : Step}

theorem complete_of_handle (complete : catalogue.Complete) {request : Request}
    (handled : catalogue.handle reading request = .ok step) :
    step.catalogue.Complete ∧ step.catalogue.window = catalogue.window := by
  rw [← perform_of_handle handled]
  exact ⟨complete_perform complete _, (pointwise_perform complete _).window⟩

/-- A sighting that is handled is merged into every store. Into those of other categories it merges as nothing. -/
theorem exists_merge_of_handle (complete : catalogue.Complete)
    (handled : catalogue.handle reading (.sighting incoming) = .ok step) {category : Category} {store : Store}
    (found : catalogue.store? category = some store) :
    ∃ merge, store.merge incoming reading.interfaces catalogue.window (reading.clock incoming.category) = .ok merge ∧
      step.catalogue.store? category = some merge.store := by
  have merges : ∃ merge, store.merge incoming reading.interfaces catalogue.window (reading.clock incoming.category) =
      .ok merge := by
    by_cases own : incoming.category = category
    · subst own
      cases merged : store.merge incoming reading.interfaces catalogue.window (reading.clock incoming.category) with
      | ok merge => exact ⟨merge, rfl⟩
      | error => simp [handle, sight, found, merged, bind, Except.bind] at handled
    · -- A store refuses what is of another category before it looks at anything else.
      have foreign : incoming.category ≠ store.category := by
        rw [category_of_store? found]
        exact own
      exact ⟨_, if_pos foreign⟩
  obtain ⟨merge, merged⟩ := merges
  refine ⟨merge, merged, ?_⟩
  rw [← perform_of_handle handled, store?_perform complete, found]
  simp only [Option.map_some, Store.after, merged]

theorem length_changes_of_sighting (handled : catalogue.handle reading (.sighting incoming) = .ok step) :
    step.changes.length ≤ 1 := by
  rw [← perform_of_handle handled, perform_sighting]
  split
  · exact Nat.zero_le 1
  · split
    · exact Nat.zero_le 1
    · split
      · exact Nat.le_refl 1
      · exact Nat.zero_le 1

/-- A sighting of what its category does not list is announced, and is what the category lists from then on besides the rest. -/
theorem changes_of_new (complete : catalogue.Complete) (handled : catalogue.handle reading (.sighting incoming) = .ok step)
    (concrete : incoming.category ≠ .unknown) (live : incoming.live = true)
    (distant : reading.interfaces.isLocal incoming.address = false)
    (unlisted : incoming.key ∉ catalogue.keys incoming.category) :
    (∃ services, services ≠ [] ∧ step.changes = [⟨incoming.category, services⟩]) ∧
      ∀ category, ∀ key ∈ step.catalogue.keys category, key = incoming.key ∨ key ∈ catalogue.keys category := by
  obtain ⟨store, found⟩ := complete.exists_store concrete
  obtain ⟨merge, merged, held⟩ := exists_merge_of_handle complete handled found
  have own := category_of_store? found
  have merges := Store.merges_of_merge merged
  rw [keys_eq found] at unlisted
  constructor
  · have added : merge.outcome = .added ∧ merge.store.records ≠ [] := by
      generalize merge.store = next at merges ⊢
      generalize merge.outcome = outcome at merges ⊢
      cases merges with
      | refused refused => exact absurd ⟨own.symm, distant⟩ refused
      | refreshed _ _ _ listed => exact absurd listed unlisted
      | added => exact ⟨rfl, List.concat_ne_nil _ _⟩
      | removed _ gone | unmatched _ gone =>
        rw [live] at gone
        cases gone
    have announced : (catalogue.replace merge.store).announce incoming.category merge.logs = step := by
      simpa [handle, sight, found, merged, bind, Except.bind, pure, Except.pure, added.1, MergeOutcome.changed] using handled
    subst announced
    have listed : (catalogue.replace merge.store).store? incoming.category = some merge.store := held
    refine ⟨merge.store.records, added.2, ?_⟩
    simp only [announce, list, listed]
  · intro category key member
    by_cases same : incoming.category = category
    · subst same
      have moved := Store.keys_merges own.symm merges
      simp only [Sighting.moves, distant, live, Bool.false_eq_true, if_false, if_true] at moved
      rw [keys_eq held, moved] at member
      rw [keys_eq found]
      exact member
    · have kept : step.catalogue.store? category = catalogue.store? category := by
        rw [← perform_of_handle handled, store?_perform complete]
        cases other : catalogue.store? category with
        | none => rfl
        | some held =>
          have foreign : held.category ≠ incoming.category := category_of_store? other ▸ Ne.symm same
          exact congrArg some (Store.after_sighting_of_foreign foreign _ _)
      simp only [keys, list, kept] at member
      exact .inr member

end Catalogue

namespace Clients

/-- The catalogue serves these requests one after the other, and triggers after each the scans that are due. -/
def Served {ι : Type} (catalogue : Catalogue) : List (Execution ι) → Catalogue → Prop
  | [], last => last = catalogue
  | execution :: rest, last =>
    catalogue.handle execution.reading execution.request = .ok execution.step ∧
      Served execution.step.catalogue.runPending.catalogue rest last

section
variable {ι : Type} {catalogue last : Catalogue} {served : List (Execution ι)}

theorem Served.concat {execution : Execution ι} (before : Served catalogue served last)
    (handled : last.handle execution.reading execution.request = .ok execution.step) :
    Served catalogue (served ++ [execution]) execution.step.catalogue.runPending.catalogue := by
  induction served generalizing catalogue with
  | nil =>
    cases before
    exact ⟨handled, rfl⟩
  | cons first rest ih => exact ⟨before.1, ih before.2⟩

/-- Sightings that are served end up in the stores in the order in which they are served, and none is announced twice. -/
theorem Served.merges (after : Served catalogue served last) (complete : catalogue.Complete) {sightings : List Sighting}
    (told : served.map (·.request) = sightings.map .sighting) :
    (∀ category store, catalogue.store? category = some store → ∃ merged, last.store? category = some merged ∧
      store.mergeAll catalogue.window (sightings.zip (served.map (·.reading))) = .ok merged) ∧
    ∀ execution ∈ served, execution.step.changes.length ≤ 1 := by
  induction served generalizing catalogue sightings with
  | nil =>
    cases after
    cases List.map_eq_nil_iff.mp told.symm
    exact ⟨fun category store found => ⟨store, found, rfl⟩, by simp⟩
  | cons execution rest ih =>
    obtain ⟨handled, after⟩ := after
    obtain ⟨incoming, others, rfl, same, told⟩ := List.map_eq_cons_iff.mp told.symm
    have request : execution.request = .sighting incoming := same.symm
    rw [request] at handled
    obtain ⟨settled, window⟩ := Catalogue.complete_of_handle complete handled
    obtain ⟨merges, single⟩ := ih after settled told.symm
    constructor
    · intro category store found
      obtain ⟨merge, first, next⟩ := Catalogue.exists_merge_of_handle complete handled found
      obtain ⟨merged, held, later⟩ := merges category merge.store next
      refine ⟨merged, held, ?_⟩
      rw [Catalogue.runPending, window] at later
      simp only [Store.mergeAll, List.map_cons, List.zip_cons_cons, first, bind, Except.bind, later]
    · intro other member
      rcases List.mem_cons.mp member with rfl | later
      · exact Catalogue.length_changes_of_sighting handled
      · exact single other later

/-- Of sightings that are all of different things that have not been listed, each is announced. -/
theorem Served.announces (after : Served catalogue served last) (complete : catalogue.Complete) {sightings : List Sighting}
    (told : served.map (·.request) = sightings.map .sighting)
    (present : ∀ incoming ∈ sightings, incoming.category ≠ .unknown ∧ incoming.live = true ∧
      incoming.key ∉ catalogue.keys incoming.category)
    (different : (sightings.map (·.key)).Nodup)
    (distant : ∀ execution ∈ served, ∀ incoming ∈ sightings,
      execution.reading.interfaces.isLocal incoming.address = false) :
    (served.flatMap (·.step.changes)).map (·.category) = sightings.map (·.category) ∧
      ∀ change ∈ served.flatMap (·.step.changes), change.services ≠ [] := by
  induction served generalizing catalogue sightings with
  | nil =>
    cases List.map_eq_nil_iff.mp told.symm
    exact ⟨rfl, by simp⟩
  | cons execution rest ih =>
    obtain ⟨handled, after⟩ := after
    obtain ⟨incoming, others, rfl, same, told⟩ := List.map_eq_cons_iff.mp told.symm
    have request : execution.request = .sighting incoming := same.symm
    rw [request] at handled
    obtain ⟨absent, different⟩ := List.nodup_cons.mp different
    obtain ⟨concrete, live, unlisted⟩ := present incoming List.mem_cons_self
    obtain ⟨⟨services, some, changes⟩, listed⟩ := Catalogue.changes_of_new complete handled concrete live
      (distant execution List.mem_cons_self incoming List.mem_cons_self) unlisted
    obtain ⟨settled, _⟩ := Catalogue.complete_of_handle complete handled
    -- What is listed now besides what was is of another key than all that is to come, so that is still unlisted.
    have present : ∀ other ∈ others, other.category ≠ .unknown ∧ other.live = true ∧
        other.key ∉ execution.step.catalogue.keys other.category := by
      intro other member
      obtain ⟨known, alive, new⟩ := present other (List.mem_cons_of_mem _ member)
      refine ⟨known, alive, fun held => ?_⟩
      rcases listed _ _ held with same | before
      · exact absent (List.mem_map.mpr ⟨other, member, same⟩)
      · exact new before
    have distant : ∀ other ∈ rest, ∀ incoming ∈ others,
        other.reading.interfaces.isLocal incoming.address = false :=
      fun other later incoming member => distant other (List.mem_cons_of_mem _ later) incoming (List.mem_cons_of_mem _ member)
    obtain ⟨categories, full⟩ := ih after settled told.symm present different distant
    simp only [List.flatMap_cons, changes]
    constructor
    · rw [List.map_append, categories]
      rfl
    · intro change member
      rcases List.mem_append.mp member with first | later
      · rw [List.mem_singleton.mp first]
        exact some
      · exact full change later

end

section
variable {ι δ : Type} [DecidableEq ι] [Device δ] {start state : State ι δ} {trace : List (Event ι)}

theorem Runs.served (runs : Runs start trace state) : Served start.catalogue (executions trace) state.catalogue := by
  induction runs with
  | start => exact rfl
  | next _ happens ih =>
    rw [executions_append]
    rcases happens.serves_or_not with ⟨execution, rfl, _, _, handled, rfl⟩ | ⟨none, same, _⟩
    · exact ih.concat handled
    · rw [none, List.append_nil, same]
      exact ih

theorem Runs.command_of_mem (runs : Runs start trace state) {execution : Execution ι} (member : execution ∈ executions trace) :
    execution.envelope.command = .request execution.request := by
  induction runs with
  | start => cases member
  | next _ happens ih =>
    rw [executions_append, List.mem_append] at member
    rcases happens.serves_or_not with ⟨served, rfl, _, request, _, rfl⟩ | ⟨none, _⟩
    · rcases member with earlier | latest
      · exact ih earlier
      · cases List.mem_singleton.mp latest
        exact request
    · rw [none] at member
      exact ih (member.resolve_right List.not_mem_nil)

end

end Clients

end Discovery
