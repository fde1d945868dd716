import Discovery.Catalogue
import Discovery.Proofs.Store.Merge
import Mathlib.Data.List.Nodup
/-!
# Runs of a catalogue

An operation is a request with what it reads of its surroundings, or the triggering of the scans that are due.
A catalogue starts with one store for each concrete category, and every operation acts on each store by
itself: what it does to a store and what it announces of it depend on that store and on no other. A run is
therefore a run of each store.
-/
namespace Discovery

open Time (Instant Span)

inductive Operation where
  | request (request : Request) (reading : Reading)
  | runPending

namespace Catalogue

/-- Perform an operation. A request that fails has done nothing. -/
def perform (catalogue : Catalogue) : Operation → Step
  | .request request reading =>
    match catalogue.handle reading request with
    | .ok step => step
    | .error _ => catalogue.idle
  | .runPending => catalogue.runPending

/-- Perform operations one after the other. -/
def run (catalogue : Catalogue) : List Operation → Step
  | [] => catalogue.idle
  | operation :: rest => (catalogue.perform operation).andThen (·.run rest)

end Catalogue

/-- The lists of a category that a step announces, in order. -/
def Step.announced (step : Step) (category : Category) : List (List Record) :=
  (step.changes.filter (·.category = category)).map (·.services)

namespace Store

/-- Clean up the store if it is of one of the categories. -/
def cleanUpIn (categories : List Category) (clock : Category → Instant) (store : Store) : Store :=
  if store.category ∈ categories then store.cleanUp (clock store.category) else store

@[simp] theorem category_cleanUpIn (categories : List Category) (clock : Category → Instant) (store : Store) :
    (store.cleanUpIn categories clock).category = store.category := by
  unfold cleanUpIn
  split <;> rfl

theorem cleanUpIn_of_notMem {categories : List Category} {clock : Category → Instant} {store : Store}
    (foreign : store.category ∉ categories) : store.cleanUpIn categories clock = store := if_neg foreign

/-- No store is cleaned up twice. -/
theorem cleanUpIn_append {categories : List Category} {category : Category} (fresh : category ∉ categories)
    (clock : Category → Instant) (store : Store) :
    (store.cleanUpIn categories clock).cleanUpIn [category] clock = store.cleanUpIn (categories ++ [category]) clock := by
  by_cases same : store.category = category
  · have before : store.category ∉ categories := same ▸ fresh
    rw [cleanUpIn_of_notMem before]
    simp [cleanUpIn, same]
  · have after : (store.cleanUpIn categories clock).category ∉ [category] := by simpa using same
    rw [cleanUpIn_of_notMem after]
    simp [cleanUpIn, same]

/-- What an operation on a catalogue does to the store of a category. A sighting whose deadline overflows does nothing. -/
def after (store : Store) (window : Span) : Operation → Store
  | .request (.sighting incoming) reading =>
    match store.merge incoming reading.interfaces window (reading.clock incoming.category) with
    | .ok merge => merge.store
    | .error _ => store
  | .request (.services category) reading => store.cleanUpIn [category] reading.clock
  | .request .scanAll reading | .request .cleanUpAll reading => store.cleanUpIn Category.concrete reading.clock
  | .request .sessions _ | .request .everything _ | .request (.scan _) _ | .runPending => store

/-- An operation on a store is a merge, a clean-up or nothing. -/
theorem after_cases {motive : Store → Prop} (store : Store) (window : Span) (operation : Operation)
    (unchanged : motive store)
    (merged : ∀ {incoming : Sighting} {reading : Reading} {next : Store} {outcome : MergeOutcome},
      Merges store incoming reading.interfaces window (reading.clock incoming.category) next outcome → motive next)
    (cleaned : ∀ now : Instant, motive (store.cleanUp now)) : motive (store.after window operation) := by
  have tidied (categories : List Category) (clock : Category → Instant) :
      motive (store.cleanUpIn categories clock) := by
    unfold cleanUpIn
    split
    · exact cleaned _
    · exact unchanged
  unfold after
  split
  · split
    next result => exact merged (merges_of_merge result)
    next => exact unchanged
  · exact tidied _ _
  · exact tidied _ _
  · exact tidied _ _
  all_goals exact unchanged

/-- A sighting is merged, unless its deadline overflows. Then it does nothing. -/
theorem after_sighting_cases {motive : Store → Prop} {store : Store} {window : Span} {incoming : Sighting} {reading : Reading}
    (unchanged : motive store)
    (merged : ∀ {next : Store} {outcome : MergeOutcome},
      Merges store incoming reading.interfaces window (reading.clock incoming.category) next outcome → motive next) :
    motive (store.after window (.request (.sighting incoming) reading)) := by
  simp only [after]
  split
  next result => exact merged (merges_of_merge result)
  next => exact unchanged

@[simp] theorem category_after (store : Store) (window : Span) (operation : Operation) :
    (store.after window operation).category = store.category :=
  after_cases (motive := fun next => next.category = store.category) store window operation rfl
    category_merges fun _ => rfl

theorem sound_after {store : Store} (sound : store.Sound) (window : Span) (operation : Operation) :
    (store.after window operation).Sound :=
  after_cases store window operation sound (fun merges => sound_merges merges sound) fun _ => sound_cleanUp sound

/-- Where an operation changes the members of a store, it changes their number. -/
theorem length_after {store : Store} {window : Span} {operation : Operation}
    (changed : members (store.after window operation).records ≠ members store.records) :
    (store.after window operation).records.length ≠ store.records.length := by
  revert changed
  apply after_cases (motive := fun next => members next.records ≠ members store.records →
    next.records.length ≠ store.records.length)
  case unchanged => exact fun changed => absurd rfl changed
  case merged =>
    intro incoming reading next outcome merges changed
    have effect := membership_merges merges
    split at effect
    · exact effect
    · exact absurd effect changed
  case cleaned =>
    intro now changed
    cases none : (store.expired now).isEmpty with
    | true => rw [cleanUp_eq_self none] at changed; exact absurd rfl changed
    | false => exact Nat.ne_of_lt (length_cleanUp_lt none)

/-- What an operation that turns a store into `next` announces of it: its list if the members have changed. -/
def announcement (store next : Store) : List (List Record) :=
  if members next.records = members store.records then [] else [next.records]

@[simp] theorem announcement_self (store : Store) : store.announcement store = [] := by
  simp [announcement]

end Store

namespace Catalogue

/-- One store for each concrete category, in listing order. -/
def Complete (catalogue : Catalogue) : Prop := catalogue.stores.map (·.category) = Category.concrete

variable {catalogue : Catalogue}

theorem complete_empty (window : Span) : (empty window).Complete := rfl

/-- Stores may change, but not their number, order or categories. -/
theorem Complete.map (complete : catalogue.Complete) {change : Store → Store}
    (own : ∀ store, (change store).category = store.category) {next : Catalogue}
    (moved : next.stores = catalogue.stores.map change) : next.Complete := by
  unfold Complete at complete ⊢
  rw [moved, List.map_map, ← complete]
  exact List.map_congr_left fun store _ => own store

theorem category_of_store? {category : Category} {store : Store} (found : catalogue.store? category = some store) :
    store.category = category := by
  simpa using List.find?_some found

/-- The store of a category is the only one of that category. -/
theorem Complete.store?_eq (complete : catalogue.Complete) {store : Store} (member : store ∈ catalogue.stores) :
    catalogue.store? store.category = some store := by
  have distinct : (catalogue.stores.map (·.category)).Nodup := complete ▸ (by decide : Category.concrete.Nodup)
  cases found : catalogue.store? store.category with
  | none =>
    have other := List.find?_eq_none.mp found store member
    simp at other
  | some held =>
    have present := List.mem_of_find?_eq_some found
    rw [List.inj_on_of_nodup_map distinct present member (category_of_store? found)]

theorem Complete.exists_store (complete : catalogue.Complete) {category : Category} (concrete : category ≠ .unknown) :
    ∃ store, catalogue.store? category = some store := by
  have listed := Category.mem_concrete_iff.mpr concrete
  rw [← complete] at listed
  obtain ⟨store, member, rfl⟩ := List.mem_map.mp listed
  exact ⟨store, complete.store?_eq member⟩

/-- What acts on each store by itself acts on the store that a category has. -/
theorem store?_map {next : Catalogue} {change : Store → Store} (own : ∀ store, (change store).category = store.category)
    (moved : next.stores = catalogue.stores.map change) (category : Category) :
    next.store? category = (catalogue.store? category).map change := by
  have looks : (fun store : Store => decide (store.category = category)) ∘ change =
      fun store => decide (store.category = category) := funext fun store => by simp [own]
  simp only [store?, moved, List.find?_map, looks]

/-- What holds of the store of one category and of all stores of others holds of all stores. -/
theorem Complete.forall_stores (complete : catalogue.Complete) {category : Category} {store : Store}
    (found : catalogue.store? category = some store) {property : Store → Prop} (here : property store)
    (others : ∀ held : Store, held.category ≠ category → property held) : ∀ held ∈ catalogue.stores, property held := by
  intro held member
  by_cases same : held.category = category
  · have unique := complete.store?_eq member
    rw [same, found] at unique
    exact Option.some.inj unique ▸ here
  · exact others held same

theorem Complete.stores_replace (complete : catalogue.Complete) {category : Category} {store : Store}
    (found : catalogue.store? category = some store) {change : Store → Store}
    (own : ∀ store, (change store).category = store.category)
    (others : ∀ held : Store, held.category ≠ category → change held = held) :
    (catalogue.replace (change store)).stores = catalogue.stores.map change := by
  have same : (change store).category = category := (own store).trans (category_of_store? found)
  refine List.map_congr_left (complete.forall_stores found ?_ fun held different => ?_)
  · rw [if_pos ((own store).symm)]
  · rw [if_neg (same ▸ different), others held different]

end Catalogue

/-! ## Steps that act on each store by itself -/

/-- The step acts on each store as `change` says and announces of each category what that has changed. If the
fingerprint was that of what the catalogue held before, then it is that of what it holds after. -/
structure Step.Pointwise (step : Step) (before : Catalogue) (change : Store → Store) : Prop where
  stores : step.catalogue.stores = before.stores.map change
  window : step.catalogue.window = before.window
  announced : ∀ category, step.announced category =
    ((before.store? category).map fun store => store.announcement (change store)).getD []
  published : before.fingerprint = fingerprint before.all → step.catalogue.fingerprint = fingerprint step.catalogue.all

namespace Step

variable {before : Catalogue} {step : Step} {change : Store → Store}

/-- A step is silent if all members stay. Deadlines may have moved. -/
theorem pointwise_of_silent (stores : step.catalogue.stores = before.stores.map change)
    (window : step.catalogue.window = before.window) (unpublished : step.catalogue.fingerprint = before.fingerprint)
    (silent : step.changes = [])
    (kept : ∀ store ∈ before.stores, members (change store).records = members store.records) :
    step.Pointwise before change := by
  refine ⟨stores, window, fun category => ?_, fun current => ?_⟩
  · -- Nothing is announced, and nothing had to be.
    simp only [announced, silent, List.filter_nil, List.map_nil]
    cases found : before.store? category with
    | none => rfl
    | some store =>
      have member := List.mem_of_find?_eq_some found
      simp [Store.announcement, kept store member]
  · -- The fingerprint of before is still right, because it only depends on the members.
    rw [unpublished, current]
    refine fingerprint_eq_of_members ?_
    simp only [Catalogue.all, stores, List.flatMap_map, members_flatMap]
    exact List.flatMap_congr fun store member => (kept store member).symm

theorem pointwise_of_unchanged (stores : step.catalogue.stores = before.stores)
    (window : step.catalogue.window = before.window) (unpublished : step.catalogue.fingerprint = before.fingerprint)
    (silent : step.changes = []) (unchanged : ∀ store ∈ before.stores, change store = store) :
    step.Pointwise before change :=
  pointwise_of_silent (stores.trans ((List.map_congr_left unchanged).trans (List.map_id' _)).symm) window unpublished
    silent fun store member => by rw [unchanged store member]

/-- Putting a store in place whose members have changed is announced once, of its category. -/
theorem pointwise_of_announced (complete : before.Complete) {category : Category} {store : Store}
    (found : before.store? category = some store) (own : ∀ store, (change store).category = store.category)
    (others : ∀ held : Store, held.category ≠ category → change held = held)
    (differs : members (change store).records ≠ members store.records) (logs : List Log) :
    ((before.replace (change store)).announce category logs).Pointwise before change := by
  have stores := complete.stores_replace found own others
  refine ⟨stores, rfl, fun asked => ?_, fun _ => rfl⟩
  by_cases same : category = asked
  · subst same
    have listed : (before.replace (change store)).list category = (change store).records := by
      simp only [Catalogue.list, Catalogue.store?_map own stores, found, Option.map_some]
    simp [announced, Catalogue.announce, listed, found, Store.announcement, differs]
  · have elsewhere : ∀ held, before.store? asked = some held → change held = held := fun held present =>
      others held fun equal => same (equal.symm.trans (Catalogue.category_of_store? present))
    cases present : before.store? asked with
    | none => simp [announced, Catalogue.announce, same]
    | some held => simp [announced, Catalogue.announce, same, elsewhere held present]

@[simp] theorem announced_andThen (first : Step) (next : Catalogue → Step) (category : Category) :
    (first.andThen next).announced category =
      first.announced category ++ (next first.catalogue).announced category := by
  simp [announced, andThen]

/-- Two steps in a row act and announce as one if no store is changed by both. -/
theorem Pointwise.andThen (first : step.Pointwise before change) (next : Catalogue → Step) (later : Store → Store)
    (second : (next step.catalogue).Pointwise step.catalogue later)
    (own : ∀ store, (change store).category = store.category)
    (once : ∀ store, change store = store ∨ later (change store) = change store) :
    (step.andThen next).Pointwise before fun store => later (change store) := by
  refine ⟨?_, second.window.trans first.window, fun category => ?_,
    fun current => second.published (first.published current)⟩
  · have stores := second.stores
    rw [first.stores, List.map_map] at stores
    exact stores
  · rw [announced_andThen, first.announced, second.announced, Catalogue.store?_map own first.stores]
    cases before.store? category with
    | none => rfl
    | some store => rcases once store with same | same <;> simp [same]

end Step

namespace Store

theorem after_sighting_of_foreign {store : Store} {incoming : Sighting} (foreign : store.category ≠ incoming.category)
    (window : Span) (reading : Reading) : store.after window (.request (.sighting incoming) reading) = store := by
  simp [after, Store.merge, foreign.symm]

end Store

namespace Catalogue

variable {catalogue : Catalogue}

theorem pointwise_cleanUp (complete : catalogue.Complete) (clock : Category → Instant) (category : Category) :
    (catalogue.cleanUp (clock category) category).Pointwise catalogue (·.cleanUpIn [category] clock) := by
  have others : ∀ held : Store, held.category ≠ category → held.cleanUpIn [category] clock = held :=
    fun held different => Store.cleanUpIn_of_notMem (by simpa using different)
  unfold cleanUp
  split
  next absent =>
    -- The sentinel
    have foreign : ∀ held ∈ catalogue.stores, held.category ≠ category := by simpa [store?] using absent
    exact Step.pointwise_of_unchanged rfl rfl rfl rfl fun held member => others held (foreign held member)
  next store found =>
    have here : store.cleanUpIn [category] clock = store.cleanUp (clock category) := by
      simp [Store.cleanUpIn, category_of_store? found]
    split
    next none =>
      have unchanged : store.cleanUpIn [category] clock = store := here.trans (Store.cleanUp_eq_self none)
      exact Step.pointwise_of_unchanged rfl rfl rfl rfl (complete.forall_stores found unchanged others)
    next some =>
      -- However many entries have expired, the list got shorter, so there is one change to announce.
      rw [← here]
      refine Step.pointwise_of_announced complete found (Store.category_cleanUpIn _ _) others (fun same => ?_) _
      have fewer := Store.length_cleanUp_lt (by simpa using some)
      rw [here] at same
      exact Nat.ne_of_lt fewer (by simpa using congrArg List.length same)

/-- Clean-ups of different categories, one after the other, act on each store once. -/
theorem pointwise_foldl_cleanUp (clock : Category → Instant) (categories : List Category) (distinct : categories.Nodup)
    {before : Catalogue} {step : Step} (complete : before.Complete) {done : List Category}
    (apart : ∀ category ∈ categories, category ∉ done) (acted : step.Pointwise before (·.cleanUpIn done clock)) :
    (categories.foldl (fun step category => step.andThen (·.cleanUp (clock category) category)) step).Pointwise before
      (·.cleanUpIn (done ++ categories) clock) := by
  -- The categories already cleaned up grow with every step, so the induction is for any of them.
  induction categories generalizing step done with
  | nil => simpa using acted
  | cons category rest ih =>
    obtain ⟨absent, distinct⟩ := List.nodup_cons.mp distinct
    have fresh := apart category List.mem_cons_self
    have complete' : step.catalogue.Complete := complete.map (Store.category_cleanUpIn done clock) acted.stores
    have next : (step.andThen (·.cleanUp (clock category) category)).Pointwise before
        (·.cleanUpIn (done ++ [category]) clock) := by
      simp only [← Store.cleanUpIn_append fresh]
      refine acted.andThen _ (·.cleanUpIn [category] clock) (pointwise_cleanUp complete' clock category)
        (Store.category_cleanUpIn done clock) fun store => ?_
      -- A store is of this category or of one before it, but not of both.
      by_cases same : store.category = category
      · exact .inl (Store.cleanUpIn_of_notMem (same ▸ fresh))
      · exact .inr (Store.cleanUpIn_of_notMem (by simpa using same))
    have rest := ih distinct (fun other member => by
      simp only [List.mem_append, List.mem_singleton, not_or]
      exact ⟨apart other (List.mem_cons_of_mem _ member), fun same => absent (same ▸ member)⟩) next
    simpa using rest

theorem pointwise_cleanUpAll (complete : catalogue.Complete) (clock : Category → Instant) :
    (catalogue.cleanUpAll clock).Pointwise catalogue (·.cleanUpIn Category.concrete clock) := by
  have idle : catalogue.idle.Pointwise catalogue (·.cleanUpIn [] clock) :=
    Step.pointwise_of_unchanged rfl rfl rfl rfl fun _ _ => rfl
  exact pointwise_foldl_cleanUp clock Category.concrete (by decide) complete (by simp) idle

theorem foldl_queueScan (targets : List Category) (catalogue : Catalogue) :
    ∃ pending, targets.foldl queueScan catalogue = { catalogue with pending } := by
  induction targets generalizing catalogue with
  | nil => exact ⟨catalogue.pending, rfl⟩
  | cons target rest ih =>
    obtain ⟨pending, queued⟩ := ih (catalogue.queueScan target)
    refine ⟨pending, queued.trans ?_⟩
    unfold queueScan
    split <;> rfl

theorem pointwise_queued (targets : List Category) (catalogue : Catalogue) (answer : Option (List Record)) :
    Step.Pointwise { (targets.foldl queueScan catalogue).idle with answer } catalogue fun store => store := by
  obtain ⟨pending, queued⟩ := foldl_queueScan targets catalogue
  rw [queued]
  exact Step.pointwise_of_unchanged rfl rfl rfl rfl fun _ _ => rfl

theorem pointwise_services (complete : catalogue.Complete) (clock : Category → Instant) (category : Category) :
    (catalogue.services (clock category) category).Pointwise catalogue (·.cleanUpIn [category] clock) := by
  refine (pointwise_cleanUp complete clock category).andThen _ (fun store => store) ?_
    (Store.category_cleanUpIn [category] clock) fun _ => .inr rfl
  generalize (catalogue.cleanUp (clock category) category).catalogue = cleaned
  cases category.scanTarget with
  | some target => exact pointwise_queued [target] cleaned _
  | none => exact pointwise_queued [] cleaned _

theorem pointwise_scanAll (complete : catalogue.Complete) (clock : Category → Instant) :
    (catalogue.scanAll clock).Pointwise catalogue (·.cleanUpIn Category.concrete clock) := by
  unfold scanAll
  refine (pointwise_cleanUpAll complete clock).andThen _ (fun store => store) ?_
    (Store.category_cleanUpIn Category.concrete clock) fun _ => .inr rfl
  generalize (catalogue.cleanUpAll clock).catalogue = cleaned
  exact pointwise_queued scanTargets cleaned none

theorem perform_of_handle {catalogue : Catalogue} {reading : Reading} {request : Request} {step : Step}
    (handled : catalogue.handle reading request = .ok step) : catalogue.perform (.request request reading) = step := by
  simp only [perform, handled]

theorem perform_sighting (catalogue : Catalogue) (incoming : Sighting) (reading : Reading) :
    catalogue.perform (.request (.sighting incoming) reading) =
      match catalogue.store? incoming.category with
      | none => { catalogue.idle with logs := [.debug "Ignoring sighting without a concrete category"] }
      | some store =>
        match store.merge incoming reading.interfaces catalogue.window (reading.clock incoming.category) with
        | .error _ => catalogue.idle
        | .ok merge =>
          if merge.outcome.changed then (catalogue.replace merge.store).announce incoming.category merge.logs
          else { (catalogue.replace merge.store).idle with logs := merge.logs } := by
  simp only [perform, handle, sight, bind, Except.bind, pure, Except.pure]
  cases catalogue.store? incoming.category with
  | none => rfl
  | some store =>
    dsimp only
    cases store.merge incoming reading.interfaces catalogue.window (reading.clock incoming.category) with
    | error => rfl
    | ok merge =>
      dsimp only
      by_cases changed : merge.outcome.changed = true
      · simp only [if_pos changed]
      · simp only [if_neg changed]

/-- A request fails only if the store that it is for cannot merge a sighting. -/
theorem handle_eq_error_iff {reading : Reading} {request : Request} :
    catalogue.handle reading request = .error .deadline ↔ ∃ incoming store, request = .sighting incoming ∧
      catalogue.store? incoming.category = some store ∧
      store.merge incoming reading.interfaces catalogue.window (reading.clock incoming.category) = .error .deadline := by
  cases request with
  | sighting incoming =>
    simp only [handle, sight, Request.sighting.injEq, exists_and_left, exists_eq_left']
    cases catalogue.store? incoming.category with
    | none => simp
    | some store =>
      simp only [Option.some.injEq, exists_eq_left']
      generalize store.merge incoming reading.interfaces catalogue.window (reading.clock incoming.category) = merged
      cases merged with
      | error overflow => simp [bind, Except.bind]
      | ok merge => cases changed : merge.outcome.changed <;> simp [bind, Except.bind, pure, Except.pure, changed]
  | _ => simp [handle]

/-- Every request is served, as long as the deadline of what is sighted can be represented. -/
theorem exists_handle (catalogue : Catalogue) (reading : Reading) (request : Request)
    (fits : ∀ category, ((reading.clock category).add? catalogue.window).isSome = true) :
    ∃ step, catalogue.handle reading request = .ok step := by
  cases handled : catalogue.handle reading request with
  | ok step => exact ⟨step, rfl⟩
  | error overflow =>
    obtain ⟨incoming, store, -, -, failed⟩ := handle_eq_error_iff.mp handled
    have due := (Store.merge_eq_error_iff.mp failed).2.2
    exact absurd (fits incoming.category) (by simp [due])

theorem Complete.replace_self (complete : catalogue.Complete) {category : Category} {store : Store}
    (found : catalogue.store? category = some store) : catalogue.replace store = catalogue := by
  have same : (catalogue.replace store).stores = catalogue.stores.map fun store => store :=
    complete.stores_replace found (fun _ => rfl) fun _ _ => rfl
  rw [List.map_id'] at same
  simpa only [replace] using congrArg (fun stores => { catalogue with stores }) same

/-- The sighting is handled and does nothing, but for log lines. -/
def Ignores (catalogue : Catalogue) (reading : Reading) (incoming : Sighting) : Prop :=
  ∃ logs, catalogue.handle reading (.sighting incoming) = .ok { catalogue.idle with logs }

/-- A local address is ignored before a deadline is set, so this succeeds whatever the clock shows. -/
theorem ignores_of_local (complete : catalogue.Complete) {reading : Reading} {incoming : Sighting}
    (isLocal : reading.interfaces.isLocal incoming.address = true) : catalogue.Ignores reading incoming := by
  simp only [Ignores, handle, sight]
  cases found : catalogue.store? incoming.category with
  | none => exact ⟨_, rfl⟩
  | some store =>
    have own : incoming.category = store.category := (category_of_store? found).symm
    simp only [Store.merge, own, ne_eq, not_true_eq_false, if_false, isLocal, if_true]
    exact ⟨_, congrArg Except.ok (by rw [complete.replace_self found])⟩

theorem pointwise_sighting (complete : catalogue.Complete) (incoming : Sighting) (reading : Reading) :
    (catalogue.perform (.request (.sighting incoming) reading)).Pointwise catalogue
      (·.after catalogue.window (.request (.sighting incoming) reading)) := by
  have own := fun held : Store => held.category_after catalogue.window (.request (.sighting incoming) reading)
  have others : ∀ held : Store, held.category ≠ incoming.category →
      held.after catalogue.window (.request (.sighting incoming) reading) = held :=
    fun held foreign => Store.after_sighting_of_foreign foreign _ _
  rw [perform_sighting]
  split
  next absent =>
    have foreign : ∀ held ∈ catalogue.stores, held.category ≠ incoming.category := by simpa [store?] using absent
    exact Step.pointwise_of_unchanged rfl rfl rfl rfl fun held member => others held (foreign held member)
  next store found =>
    split
    next overflow failed =>
      -- A deadline that is not representable: nothing has happened on either side.
      have here : store.after catalogue.window (.request (.sighting incoming) reading) = store := by
        simp only [Store.after, failed]
      exact Step.pointwise_of_unchanged rfl rfl rfl rfl (complete.forall_stores found here others)
    next merge merged =>
      have here : store.after catalogue.window (.request (.sighting incoming) reading) = merge.store := by
        simp only [Store.after, merged]
      have effect := Store.membership_merges (Store.merges_of_merge merged)
      rw [← here] at effect ⊢
      split
      next changed =>
        -- Added or removed
        rw [if_pos changed] at effect
        refine Step.pointwise_of_announced complete found own others (fun same => effect ?_) _
        simpa using congrArg List.length same
      next silent =>
        -- Refreshed or ignored: the members are the same, so there was no need to publish.
        rw [if_neg silent] at effect
        exact Step.pointwise_of_silent (complete.stores_replace found own others) rfl rfl rfl
          (complete.forall_stores found effect fun held foreign => by rw [others held foreign])

theorem pointwise_perform (complete : catalogue.Complete) (operation : Operation) :
    (catalogue.perform operation).Pointwise catalogue (·.after catalogue.window operation) := by
  cases operation with
  | runPending => exact Step.pointwise_of_unchanged rfl rfl rfl rfl fun _ _ => rfl
  | request request reading =>
    cases request with
    | sighting incoming => exact pointwise_sighting complete incoming reading
    | services category => exact pointwise_services complete reading.clock category
    | scanAll => exact pointwise_scanAll complete reading.clock
    | cleanUpAll => exact pointwise_cleanUpAll complete reading.clock
    | sessions | everything | scan => exact Step.pointwise_of_unchanged rfl rfl rfl rfl fun _ _ => rfl

theorem complete_perform (complete : catalogue.Complete) (operation : Operation) :
    (catalogue.perform operation).catalogue.Complete :=
  complete.map (fun store => store.category_after catalogue.window operation)
    (pointwise_perform complete operation).stores

theorem store?_perform (complete : catalogue.Complete) (operation : Operation) (category : Category) :
    (catalogue.perform operation).catalogue.store? category =
      (catalogue.store? category).map (·.after catalogue.window operation) :=
  store?_map (fun store => store.category_after catalogue.window operation)
    (pointwise_perform complete operation).stores category

theorem Complete.concrete (complete : catalogue.Complete) {store : Store} (member : store ∈ catalogue.stores) :
    store.category ≠ .unknown :=
  Category.mem_concrete_iff.mp (complete ▸ List.mem_map_of_mem member)

/-- A sighting fails exactly if it sets a deadline that is not representable. -/
theorem sighting_eq_error_iff (complete : catalogue.Complete) {reading : Reading} {incoming : Sighting} :
    catalogue.handle reading (.sighting incoming) = .error .deadline ↔
      (incoming.category ≠ .unknown ∧ incoming.live = true ∧ reading.interfaces.isLocal incoming.address = false) ∧
        (reading.clock incoming.category).add? catalogue.window = none := by
  rw [handle_eq_error_iff]
  constructor
  · rintro ⟨_, store, ⟨⟩, found, failed⟩
    obtain ⟨accepted, live, due⟩ := Store.merge_eq_error_iff.mp failed
    have concrete := complete.concrete (List.mem_of_find?_eq_some found)
    exact ⟨⟨accepted.1 ▸ concrete, live, accepted.2⟩, due⟩
  · rintro ⟨⟨concrete, live, distant⟩, due⟩
    obtain ⟨store, found⟩ := complete.exists_store concrete
    have accepted : incoming.Accepted store.category reading.interfaces := ⟨(category_of_store? found).symm, distant⟩
    exact ⟨incoming, store, rfl, found, Store.merge_eq_error_iff.mpr ⟨accepted, live, due⟩⟩

/-- What holds of the records of each store after an operation if it does so before holds of everything held. -/
theorem forall_all_perform (complete : catalogue.Complete) (operation : Operation) {property : Record → Prop}
    (kept : ∀ store ∈ catalogue.stores, (∀ record ∈ store.records, property record) →
      ∀ record ∈ (store.after catalogue.window operation).records, property record)
    (held : ∀ record ∈ catalogue.all, property record) :
    ∀ record ∈ (catalogue.perform operation).catalogue.all, property record := by
  intro record member
  obtain ⟨next, present, listed⟩ := List.mem_flatMap.mp member
  rw [(pointwise_perform complete operation).stores] at present
  obtain ⟨store, before, rfl⟩ := List.mem_map.mp present
  exact kept store before (fun other inside => held other (List.mem_flatMap.mpr ⟨store, before, inside⟩)) record listed

/-! ## Clean-ups and scans -/

theorem quiet_cleanUp (catalogue : Catalogue) (now : Instant) (category : Category) :
    (catalogue.cleanUp now category).scans = [] ∧ (catalogue.cleanUp now category).catalogue.pending = catalogue.pending := by
  unfold cleanUp
  split
  · exact ⟨rfl, rfl⟩
  · split <;> exact ⟨rfl, rfl⟩

theorem quiet_cleanUpAll (catalogue : Catalogue) (clock : Category → Instant) :
    (catalogue.cleanUpAll clock).scans = [] ∧ (catalogue.cleanUpAll clock).catalogue.pending = catalogue.pending := by
  refine List.foldlRecOn Category.concrete _
    (motive := fun step : Step => step.scans = [] ∧ step.catalogue.pending = catalogue.pending) ⟨rfl, rfl⟩ ?_
  intro step quiet category _
  obtain ⟨silent, kept⟩ := quiet_cleanUp step.catalogue (clock category) category
  exact ⟨by simp only [Step.andThen, quiet.1, silent, List.append_nil], kept.trans quiet.2⟩

/-! ## Runs -/

@[simp] theorem run_nil (catalogue : Catalogue) : catalogue.run [] = catalogue.idle := rfl

theorem run_append (catalogue : Catalogue) (earlier later : List Operation) :
    catalogue.run (earlier ++ later) = (catalogue.run earlier).andThen (·.run later) := by
  induction earlier generalizing catalogue with
  | nil => rfl
  | cons operation rest ih => simp only [List.cons_append, run, ih, Step.andThen, List.append_assoc]

theorem catalogue_run_concat (catalogue : Catalogue) (operations : List Operation) (operation : Operation) :
    (catalogue.run (operations ++ [operation])).catalogue =
      ((catalogue.run operations).catalogue.perform operation).catalogue := by
  rw [run_append]
  rfl

theorem changes_run_concat (catalogue : Catalogue) (operations : List Operation) (operation : Operation) :
    (catalogue.run (operations ++ [operation])).changes =
      (catalogue.run operations).changes ++ ((catalogue.run operations).catalogue.perform operation).changes := by
  rw [run_append]
  exact congrArg _ (List.append_nil _)

theorem announced_run_concat (catalogue : Catalogue) (operations : List Operation) (operation : Operation)
    (category : Category) :
    (catalogue.run (operations ++ [operation])).announced category =
      (catalogue.run operations).announced category ++
        ((catalogue.run operations).catalogue.perform operation).announced category := by
  rw [run_append, Step.announced_andThen, run, Step.announced_andThen]
  exact congrArg _ (List.append_nil _)

/-- What holds of an empty catalogue and is kept by every operation holds after every run. -/
theorem run_induction {motive : Catalogue → Prop} (initial : motive catalogue)
    (kept : ∀ catalogue operation, motive catalogue → motive (catalogue.perform operation).catalogue)
    (operations : List Operation) : motive (catalogue.run operations).catalogue := by
  induction operations generalizing catalogue with
  | nil => exact initial
  | cons operation rest ih => exact ih (kept catalogue operation initial)

theorem complete_run (window : Span) (operations : List Operation) :
    ((empty window).run operations).catalogue.Complete :=
  run_induction (complete_empty window) (fun _ operation complete => complete_perform complete operation) operations

theorem window_run (complete : catalogue.Complete) (operations : List Operation) :
    (catalogue.run operations).catalogue.window = catalogue.window := by
  have both := run_induction (motive := fun next => next.Complete ∧ next.window = catalogue.window) ⟨complete, rfl⟩
    (fun _ operation ⟨complete, same⟩ =>
      ⟨complete_perform complete operation, (pointwise_perform complete operation).window.trans same⟩) operations
  exact both.2

end Catalogue

end Discovery
