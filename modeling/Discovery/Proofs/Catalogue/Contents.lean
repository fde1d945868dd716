import Discovery.Proofs.Catalogue.Announcements
/-!
# What a catalogue holds

Only a merge puts a record into a store, and it looks the key up before. So the records of a store are live, of
the store's own category and under different keys, and the category in a key keeps the stores apart. Everything
a catalogue holds, answers and announces is read off its stores, so no list ever shows anything else.
-/
namespace Discovery

open Time (Instant Span)

namespace Catalogue

/-- One store for each concrete category, with live records of that category under different keys. -/
structure Sound (catalogue : Catalogue) : Prop where
  complete : catalogue.Complete
  stores : ∀ store ∈ catalogue.stores, store.Sound

variable {catalogue : Catalogue}

theorem sound_empty (window : Span) : (empty window).Sound := by
  refine ⟨complete_empty window, fun store member => ?_⟩
  obtain ⟨category, _, rfl⟩ := List.mem_map.mp member
  exact Store.sound_empty category

theorem sound_perform (sound : catalogue.Sound) (operation : Operation) :
    (catalogue.perform operation).catalogue.Sound := by
  refine ⟨complete_perform sound.complete operation, fun store member => ?_⟩
  rw [(pointwise_perform sound.complete operation).stores] at member
  obtain ⟨before, present, rfl⟩ := List.mem_map.mp member
  exact Store.sound_after (sound.stores before present) catalogue.window operation

theorem Sound.run (sound : catalogue.Sound) (operations : List Operation) : (catalogue.run operations).catalogue.Sound :=
  run_induction sound (fun _ operation sound => sound_perform sound operation) operations

theorem sound_run (window : Span) (operations : List Operation) : ((empty window).run operations).catalogue.Sound :=
  (sound_empty window).run operations

/-! ## The lists of the categories -/

theorem Complete.list_eq (complete : catalogue.Complete) {store : Store} (member : store ∈ catalogue.stores) :
    catalogue.list store.category = store.records := by
  simp only [list, complete.store?_eq member]

theorem Complete.all_eq (complete : catalogue.Complete) :
    catalogue.all = Category.concrete.flatMap catalogue.list := by
  calc catalogue.all
      = catalogue.stores.flatMap (fun store => catalogue.list store.category) :=
        List.flatMap_congr fun store member => (complete.list_eq member).symm
    _ = (catalogue.stores.map (·.category)).flatMap catalogue.list := (List.flatMap_map ..).symm
    _ = Category.concrete.flatMap catalogue.list := by rw [complete]

theorem Sound.of_mem_list (sound : catalogue.Sound) {category : Category} {record : Record}
    (member : record ∈ catalogue.list category) :
    category ≠ .unknown ∧ record.category = category ∧ record.live = true := by
  unfold list at member
  split at member
  next store found =>
    have present : store ∈ catalogue.stores := List.mem_of_find?_eq_some found
    have same : store.category = category := category_of_store? found
    have listed : category ∈ Category.concrete := by
      rw [← sound.complete, ← same]
      exact List.mem_map_of_mem present
    have kept := sound.stores store present
    exact ⟨Category.mem_concrete_iff.mp listed, (kept.own record member).trans same, kept.live record member⟩
  next => exact absurd member List.not_mem_nil

theorem Sound.list_unknown (sound : catalogue.Sound) : catalogue.list .unknown = [] :=
  List.eq_nil_iff_forall_not_mem.mpr fun _ member => (sound.of_mem_list member).1 rfl

theorem Sound.of_mem_all (sound : catalogue.Sound) {record : Record} (member : record ∈ catalogue.all) :
    record.category ≠ .unknown ∧ record.live = true := by
  rw [sound.complete.all_eq] at member
  obtain ⟨category, _, listed⟩ := List.mem_flatMap.mp member
  obtain ⟨concrete, own, live⟩ := sound.of_mem_list listed
  exact ⟨own ▸ concrete, live⟩

theorem Sound.nodup_keys (sound : catalogue.Sound) : (catalogue.all.map (·.key)).Nodup := by
  have apart : Category.concrete.Pairwise (· ≠ ·) := by decide
  rw [sound.complete.all_eq, List.map_flatMap, List.nodup_flatMap]
  refine ⟨fun category member => ?_, apart.imp ?_⟩
  · -- Within a store the keys differ by its invariant.
    have held : category ∈ catalogue.stores.map (·.category) := sound.complete ▸ member
    obtain ⟨store, present, rfl⟩ := List.mem_map.mp held
    rw [sound.complete.list_eq present]
    exact (sound.stores store present).unique
  · -- Across stores they differ by the category in them.
    intro left right different key inLeft inRight
    obtain ⟨first, firstListed, rfl⟩ := List.mem_map.mp inLeft
    obtain ⟨second, secondListed, same⟩ := List.mem_map.mp inRight
    have categories : second.category = first.category := congrArg Key.category same
    rw [(sound.of_mem_list firstListed).2.1, (sound.of_mem_list secondListed).2.1] at categories
    exact different categories.symm

theorem Sound.sorted (sound : catalogue.Sound) :
    catalogue.all.Pairwise fun earlier later => earlier.category ≤ later.category := by
  have listed : Category.concrete.Pairwise (· ≤ ·) := by decide
  rw [sound.complete.all_eq, List.pairwise_flatMap]
  refine ⟨fun category _ => List.pairwise_iff_forall_sublist.mpr ?_, listed.imp ?_⟩
  · -- Any two records of one list are of the same category.
    intro first second both
    have own : ∀ record ∈ [first, second], record.category = category := fun record member =>
      (sound.of_mem_list (both.subset member)).2.1
    rw [own first (by simp), own second (by simp)]
    exact Nat.le_refl _
  · intro left right ordered first firstListed second secondListed
    rw [(sound.of_mem_list firstListed).2.1, (sound.of_mem_list secondListed).2.1]
    exact ordered

/-- The part of one category of everything held is the list of that category. -/
theorem Sound.filter_all (sound : catalogue.Sound) (category : Category) :
    catalogue.all.filter (·.category = category) = catalogue.list category := by
  have part (held : Category) : (catalogue.list held).filter (·.category = category) =
      if held = category then catalogue.list category else [] := by
    split
    next same =>
      subst same
      exact List.filter_eq_self.mpr fun record member => by simp [(sound.of_mem_list member).2.1]
    next different =>
      exact List.filter_eq_nil_iff.mpr fun record member => by simp [(sound.of_mem_list member).2.1, different]
  rw [sound.complete.all_eq, List.filter_flatMap]
  simp only [part]
  cases category <;> simp [Category.concrete, sound.list_unknown]

/-! ## Answers and announcements -/

theorem answer_everything (catalogue : Catalogue) (reading : Reading) :
    (catalogue.perform (.request .everything reading)).answer = some catalogue.all := rfl

theorem answer_sessions (catalogue : Catalogue) (reading : Reading) :
    (catalogue.perform (.request .sessions reading)).answer = some (catalogue.list .hyperhdr) := rfl

theorem answer_cleanUp (catalogue : Catalogue) (now : Instant) (category : Category) :
    (catalogue.cleanUp now category).answer = none := by
  unfold cleanUp
  split
  · rfl
  · split <;> rfl

theorem answer_cleanUpAll (catalogue : Catalogue) (clock : Category → Instant) :
    (catalogue.cleanUpAll clock).answer = none :=
  List.foldlRecOn Category.concrete _ (motive := fun step : Step => step.answer = none) rfl
    fun (step : Step) _ category _ => answer_cleanUp step.catalogue (clock category) category

theorem answer_sighting (catalogue : Catalogue) (incoming : Sighting) (reading : Reading) :
    (catalogue.perform (.request (.sighting incoming) reading)).answer = none := by
  rw [perform_sighting]
  split
  · rfl
  · split
    · rfl
    · split <;> rfl

/-- What is answered is the list of a category, or everything, as held afterwards. -/
theorem answer_perform {operation : Operation} {records : List Record}
    (answered : (catalogue.perform operation).answer = some records) :
    (∃ category, records = (catalogue.perform operation).catalogue.list category) ∨
      records = (catalogue.perform operation).catalogue.all := by
  cases operation with
  | runPending => cases answered
  | request request reading =>
    cases request with
    | services category => exact .inl ⟨category, (Option.some.inj answered).symm⟩
    | sessions => exact .inl ⟨.hyperhdr, (Option.some.inj answered).symm⟩
    | everything => exact .inr (Option.some.inj answered).symm
    | scan | scanAll => cases answered
    | cleanUpAll =>
      have unanswered : (catalogue.perform (.request .cleanUpAll reading)).answer = none :=
        answer_cleanUpAll catalogue reading.clock
      rw [unanswered] at answered
      cases answered
    | sighting incoming =>
      rw [answer_sighting] at answered
      cases answered

/-- What is announced of a category is its list as held afterwards. The sentinel's cannot change. -/
theorem Sound.of_mem_changes (sound : catalogue.Sound) {operation : Operation} {change : Change}
    (member : change ∈ (catalogue.perform operation).changes) :
    change.category ≠ .unknown ∧
      change.services = (catalogue.perform operation).catalogue.list change.category := by
  have announced : change.services ∈ (catalogue.perform operation).announced change.category :=
    List.mem_map_of_mem (List.mem_filter.mpr ⟨member, by simp⟩)
  rw [announced_perform sound.complete] at announced
  split at announced
  next => exact absurd announced List.not_mem_nil
  next changed =>
    refine ⟨fun sentinel => changed ?_, List.mem_singleton.mp announced⟩
    rw [sentinel, sound.list_unknown, (sound_perform sound operation).list_unknown]

theorem of_mem_changes_run (window : Span) (operations : List Operation) :
    ∀ change ∈ ((empty window).run operations).changes,
      change.category ≠ .unknown ∧ ∀ record ∈ change.services, record.category = change.category := by
  induction operations using List.reverseRecOn with
  | nil => simp [idle]
  | append_singleton operations operation ih =>
    have sound := sound_run window operations
    intro change member
    rw [changes_run_concat, List.mem_append] at member
    rcases member with earlier | latest
    · exact ih change earlier
    · obtain ⟨concrete, listed⟩ := sound.of_mem_changes latest
      rw [listed]
      exact ⟨concrete, fun record held => ((sound_perform sound operation).of_mem_list held).2.1⟩

/-- No operation adds, drops or renames a store. Every store holds live records of its own category, no two records
held agree in category, address and port, everything is listed category by category, the sessions are the part of
their category, and no record of the sentinel category is held, answered or announced. -/
theorem contents_of_run (window : Span) (operations : List Operation) :
    let past := (empty window).run operations
    let catalogue := past.catalogue
    catalogue.stores.map (·.category) = Category.concrete ∧
    (∀ store ∈ catalogue.stores, ∀ record ∈ store.records,
      record.category = store.category ∧ record.live = true) ∧
    (catalogue.all.map (·.key)).Nodup ∧
    (∀ reading, (catalogue.perform (.request .everything reading)).answer =
      some (Category.concrete.flatMap catalogue.list)) ∧
    (catalogue.all.Pairwise fun earlier later => earlier.category ≤ later.category) ∧
    (∀ reading, (catalogue.perform (.request .sessions reading)).answer =
      some (catalogue.all.filter (·.category = .hyperhdr))) ∧
    (∀ record ∈ catalogue.all, record.category ≠ .unknown) ∧
    (∀ operation records, (catalogue.perform operation).answer = some records →
      ∀ record ∈ records, record.category ≠ .unknown) ∧
    (∀ change ∈ past.changes, change.category ≠ .unknown ∧
      ∀ record ∈ change.services, record.category = change.category) := by
  intro past catalogue
  have sound : catalogue.Sound := sound_run window operations
  refine ⟨sound.complete, ?_, sound.nodup_keys, ?_, sound.sorted, ?_, fun record member => (sound.of_mem_all member).1,
    ?_, of_mem_changes_run window operations⟩
  · intro store member record held
    have kept := sound.stores store member
    exact ⟨kept.own record held, kept.live record held⟩
  · intro reading
    rw [answer_everything, sound.complete.all_eq]
  · intro reading
    rw [answer_sessions, sound.filter_all]
  · intro operation records answered record member
    have next := sound_perform sound operation
    rcases answer_perform answered with ⟨category, rfl⟩ | rfl
    · obtain ⟨concrete, own, _⟩ := next.of_mem_list member
      exact own ▸ concrete
    · exact (next.of_mem_all member).1

end Catalogue

end Discovery
