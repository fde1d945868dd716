import Discovery.Store
import Discovery.Proofs.Membership
/-!
# What sightings and clean-ups do to a store

A sighting does one of five things to a store, each under a condition on the sighting and on what the store
holds. From these cases follow the invariant that a store holds live records of its own category under
different keys, and that an outcome is reported as a change exactly when the members have changed, which
then shows in the length of the list.
-/
namespace Discovery

open Net (Interfaces)
open Time (Instant Span)

/-- The sighting is of the category, at an address that is not local. -/
def Sighting.Accepted (sighting : Sighting) (category : Category) (interfaces : Interfaces) : Prop :=
  sighting.category = category ∧ interfaces.isLocal sighting.address = false

instance (sighting : Sighting) (category : Category) (interfaces : Interfaces) :
    Decidable (sighting.Accepted category interfaces) := inferInstanceAs (Decidable (_ ∧ _))

/-! ## Renewing a deadline -/

/-- What does not look at the deadline does not see a renewal. -/
theorem map_renewFirst {α : Type} (view : Record → α)
    (blind : ∀ (record : Record) (expiry : Instant), view { record with expiry } = view record)
    (key : Key) (expiry : Instant) (records : List Record) :
    (renewFirst key expiry records).map view = records.map view := by
  induction records with
  | nil => rfl
  | cons record rest ih =>
    rw [renewFirst]
    split
    · simp only [List.map_cons, blind]
    · simp only [List.map_cons, ih]

theorem members_renewFirst (key : Key) (expiry : Instant) (records : List Record) :
    members (renewFirst key expiry records) = members records :=
  map_renewFirst Record.member (fun _ _ => rfl) key expiry records

theorem keys_renewFirst (key : Key) (expiry : Instant) (records : List Record) :
    (renewFirst key expiry records).map (·.key) = records.map (·.key) :=
  map_renewFirst (·.key) (fun _ _ => rfl) key expiry records

/-- A renewal leaves every record as it is but the one with the new deadline. -/
theorem mem_renewFirst {key : Key} {expiry : Instant} {records : List Record} {record : Record}
    (member : record ∈ renewFirst key expiry records) : record ∈ records ∨ record.expiry = expiry := by
  induction records with
  | nil => exact .inl member
  | cons first rest ih =>
    rw [renewFirst] at member
    split at member
    · rcases List.mem_cons.mp member with rfl | later
      · exact .inr rfl
      · exact .inl (List.mem_cons_of_mem first later)
    · rcases List.mem_cons.mp member with rfl | later
      · exact .inl List.mem_cons_self
      · exact (ih later).imp_left (List.mem_cons_of_mem first)

/-- The record with a new deadline if it is under the key. -/
def Record.renewUnder (key : Key) (expiry : Instant) (record : Record) : Record :=
  if record.key = key then { record with expiry } else record

@[simp] theorem Record.key_renewUnder (key : Key) (expiry : Instant) (record : Record) :
    (record.renewUnder key expiry).key = record.key := by
  unfold renewUnder
  split <;> rfl

theorem map_renewUnder_of_absent {key : Key} {records : List Record} (absent : key ∉ records.map (·.key))
    (expiry : Instant) : records.map (·.renewUnder key expiry) = records := by
  have others : ∀ record ∈ records, ¬ record.key = key := fun record member same =>
    absent (List.mem_map.mpr ⟨record, member, same⟩)
  exact (List.map_congr_left fun record member => if_neg (others record member)).trans (List.map_id' records)

/-- Under different keys the first entry of a key is its only one. -/
theorem renewFirst_eq_map {key : Key} {expiry : Instant} {records : List Record}
    (unique : (records.map (·.key)).Nodup) :
    renewFirst key expiry records = records.map (·.renewUnder key expiry) := by
  induction records with
  | nil => rfl
  | cons record rest ih =>
    obtain ⟨absent, distinct⟩ := List.nodup_cons.mp unique
    rw [renewFirst, List.map_cons, Record.renewUnder]
    split
    next equal => rw [map_renewUnder_of_absent (equal ▸ absent)]
    next => rw [ih distinct]

namespace Store

/-! ## Looking a key up -/

theorem find?_eq_none_iff {store : Store} {key : Key} :
    store.find? key = none ↔ key ∉ store.records.map (·.key) := by
  simp [find?]

theorem isSome_find?_iff {store : Store} {key : Key} :
    (store.find? key).isSome = true ↔ key ∈ store.records.map (·.key) := by
  simp [find?]

/-! ## The cases of a merge -/

/-- What a sighting does to a store. The deadline is part of a case only where one is set. -/
inductive Merges (store : Store) (incoming : Sighting) (interfaces : Interfaces) (window : Span) (now : Instant) :
    Store → MergeOutcome → Prop
  | refused : ¬ incoming.Accepted store.category interfaces → Merges store incoming interfaces window now store .ignored
  | refreshed {expiry : Instant} : incoming.Accepted store.category interfaces → incoming.live = true →
      now.add? window = some expiry → incoming.key ∈ store.records.map (·.key) →
      Merges store incoming interfaces window now
        { store with records := renewFirst incoming.key expiry store.records } .refreshed
  | added {expiry : Instant} : incoming.Accepted store.category interfaces → incoming.live = true →
      now.add? window = some expiry → incoming.key ∉ store.records.map (·.key) →
      Merges store incoming interfaces window now
        { store with records := store.records ++ [{ incoming with expiry }] } .added
  | removed : incoming.Accepted store.category interfaces → incoming.live = false →
      incoming.key ∈ store.records.map (·.key) →
      Merges store incoming interfaces window now
        { store with records := store.records.filter (·.key ≠ incoming.key) } .removed
  | unmatched : incoming.Accepted store.category interfaces → incoming.live = false →
      incoming.key ∉ store.records.map (·.key) →
      Merges store incoming interfaces window now store .ignored

variable {store next : Store} {incoming : Sighting} {interfaces : Interfaces} {window : Span} {now : Instant}
  {outcome : MergeOutcome}

/-- A merge succeeds unless it has to set a deadline that is not representable, and then does what its case says. -/
theorem merges_of_merge {merge : Merge} (returned : store.merge incoming interfaces window now = .ok merge) :
    Merges store incoming interfaces window now merge.store merge.outcome := by
  unfold Store.merge at returned
  split at returned
  next foreign =>
    -- Another category
    cases returned
    exact .refused fun accepted => foreign accepted.1
  next own =>
    have category : incoming.category = store.category := by simpa using own
    dsimp only at returned
    split at returned
    next isLocal =>
      -- The host itself
      cases returned
      exact .refused fun accepted => by simp [accepted.2] at isLocal
    next distant =>
      have accepted : incoming.Accepted store.category interfaces := ⟨category, by simpa using distant⟩
      split at returned
      next live =>
        -- The deadline is computed before the key is looked up, so an overflow fails in both cases.
        cases due : now.add? window with
        | none => simp [deadline, due, bind, Except.bind] at returned
        | some expiry =>
          simp only [deadline, due, bind, Except.bind, pure, Except.pure, Except.ok.injEq] at returned
          subst returned
          cases found : store.find? incoming.key with
          | none =>
            simp only [sight, found]
            exact .added accepted live due (find?_eq_none_iff.mp found)
          | some held =>
            simp only [sight, found]
            exact .refreshed accepted live due (isSome_find?_iff.mp (by simp [found]))
      next gone =>
        have departed : incoming.live = false := by simpa using gone
        cases returned
        cases found : store.find? incoming.key with
        | none =>
          simp only [deregister, found]
          exact .unmatched accepted departed (find?_eq_none_iff.mp found)
        | some held =>
          simp only [deregister, found]
          exact .removed accepted departed (isSome_find?_iff.mp (by simp [found]))

/-- A merge fails exactly on a deadline that it has to set and that is not representable. -/
theorem merge_eq_error_iff : store.merge incoming interfaces window now = .error .deadline ↔
    incoming.Accepted store.category interfaces ∧ incoming.live = true ∧ now.add? window = none := by
  by_cases own : incoming.category = store.category
  · by_cases distant : interfaces.isLocal incoming.address = false
    · cases live : incoming.live <;> cases due : now.add? window <;>
        simp [Store.merge, Sighting.Accepted, own, distant, live, deadline, due, bind, Except.bind, pure, Except.pure]
    · simp [Store.merge, Sighting.Accepted, own, distant]
  · simp [Store.merge, Sighting.Accepted, own]

theorem exists_merge (fits : incoming.Accepted store.category interfaces → incoming.live = true →
    (now.add? window).isSome = true) : ∃ merge, store.merge incoming interfaces window now = .ok merge := by
  cases merged : store.merge incoming interfaces window now with
  | ok merge => exact ⟨merge, rfl⟩
  | error overflow =>
    obtain ⟨accepted, live, due⟩ := merge_eq_error_iff.mp merged
    exact absurd (fits accepted live) (by simp [due])

/-! ## What a merge keeps -/

theorem category_merges (merges : Merges store incoming interfaces window now next outcome) :
    next.category = store.category := by
  cases merges <;> rfl

/-- Every record is live and of the store's own category, and no two records share a key. -/
structure Sound (store : Store) : Prop where
  own : ∀ record ∈ store.records, record.category = store.category
  live : ∀ record ∈ store.records, record.live = true
  unique : (store.records.map (·.key)).Nodup

theorem sound_empty (category : Category) : (empty category).Sound :=
  ⟨by simp [empty], by simp [empty], by simp [empty]⟩

/-- What holds of every sighting in a list holds after a renewal. -/
theorem forall_renewFirst (property : Sighting → Prop) {key : Key} {expiry : Instant}
    {records : List Record} (held : ∀ record ∈ records, property record.toSighting) :
    ∀ record ∈ renewFirst key expiry records, property record.toSighting := by
  intro record member
  have seen : record.toSighting ∈ (renewFirst key expiry records).map (·.toSighting) :=
    List.mem_map_of_mem member
  rw [map_renewFirst (·.toSighting) (fun _ _ => rfl)] at seen
  obtain ⟨before, present, same⟩ := List.mem_map.mp seen
  exact same ▸ held before present

theorem sound_merges (merges : Merges store incoming interfaces window now next outcome) (sound : store.Sound) :
    next.Sound := by
  cases merges with
  | refused | unmatched => exact sound
  | refreshed =>
    -- A renewal leaves everything but the deadline, and every entry in its place.
    refine ⟨forall_renewFirst (·.category = store.category) sound.own,
      forall_renewFirst (·.live = true) sound.live, ?_⟩
    simpa only [keys_renewFirst] using sound.unique
  | added accepted live due absent =>
    refine ⟨?_, ?_, ?_⟩
    · intro record member
      rcases List.mem_append.mp member with old | new
      · exact sound.own record old
      · rw [List.mem_singleton.mp new]
        exact accepted.1
    · intro record member
      rcases List.mem_append.mp member with old | new
      · exact sound.live record old
      · rw [List.mem_singleton.mp new]
        exact live
    · -- The list alone would take a key twice. That the key was looked up before is what keeps it from that.
      simp only [List.map_append, List.map_singleton]
      rw [List.nodup_append]
      refine ⟨sound.unique, by simp, ?_⟩
      intro key old other new equal
      rw [List.mem_singleton.mp new] at equal
      exact absent (equal ▸ old)
  | removed =>
    -- Whatever holds of all entries, or of all pairs of them, holds of those that are left.
    have kept := List.filter_sublist (p := fun record : Record => decide (record.key ≠ incoming.key))
      (l := store.records)
    exact ⟨fun record member => sound.own record (kept.subset member),
      fun record member => sound.live record (kept.subset member), sound.unique.sublist (kept.map _)⟩

/-- An outcome is a change exactly when the members differ, and then the numbers of records differ. -/
theorem membership_merges (merges : Merges store incoming interfaces window now next outcome) :
    if outcome.changed then next.records.length ≠ store.records.length
    else members next.records = members store.records := by
  cases merges with
  | refused | unmatched => rfl
  | refreshed => exact members_renewFirst _ _ _
  | added => simp [MergeOutcome.changed]
  | removed accepted gone held =>
    -- The key is held, so the filter drops at least one entry.
    obtain ⟨record, member, same⟩ := List.mem_map.mp held
    have fewer : (store.records.filter (·.key ≠ incoming.key)).length < store.records.length :=
      List.length_filter_lt_length_iff_exists.mpr ⟨record, member, by simp [same]⟩
    exact Nat.ne_of_lt fewer

/-! ## Clean-ups -/

theorem sound_cleanUp (sound : store.Sound) : (store.cleanUp now).Sound :=
  have kept : (store.cleanUp now).records.Sublist store.records := List.filter_sublist
  ⟨fun record member => sound.own record (kept.subset member),
    fun record member => sound.live record (kept.subset member), sound.unique.sublist (kept.map _)⟩

theorem cleanUp_eq_self (none : (store.expired now).isEmpty = true) : store.cleanUp now = store := by
  have unexpired : ∀ record ∈ store.records, (!record.expiredAt now) = true := by
    simpa [expired] using none
  simp only [cleanUp, List.filter_eq_self.mpr unexpired]

/-- A clean-up that finds something expired leaves fewer records. -/
theorem length_cleanUp_lt (some : (store.expired now).isEmpty = false) :
    (store.cleanUp now).records.length < store.records.length := by
  obtain ⟨record, member, late⟩ : ∃ record ∈ store.records, record.expiredAt now = true := by
    simpa [expired] using some
  exact List.length_filter_lt_length_iff_exists.mpr ⟨record, member, by simp [late]⟩

end Store

end Discovery
