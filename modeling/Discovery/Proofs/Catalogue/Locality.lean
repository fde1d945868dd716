import Discovery.Proofs.Catalogue.Contents
/-!
# Addresses of this host in a catalogue

Whether an address is one of this host's is asked anew for every sighting, and of nothing else. While the interfaces stay
as they are, no record at one of their addresses gets into a store, and so none is announced or answered. An address can
become local after an entry has been made under it. From then on the entry is not heard of any more: it keeps its deadline,
and only a clean-up after that takes it out.
-/
namespace Discovery

open Net (Address Interfaces)
open Time (Instant Span)

/-- The text, without brackets and zone and in canonical form, is an address of one of the interfaces. -/
def Net.Denotes (own : List Address) (text : String) : Prop := ∃ address ∈ own, Net.announced? text = some address.canonical

theorem Net.isLocal_readable_iff {own : List Address} {text : String} :
    (Interfaces.readable own).isLocal text = true ↔ Net.Denotes own text := by
  cases announced : Net.announced? text with
  | none => simp [Interfaces.isLocal, Net.Denotes, announced]
  | some address => simp [Interfaces.isLocal, Net.Denotes, announced, eq_comm (a := address)]

namespace Operation

/-- What the operation reads of its surroundings, if it reads anything. -/
def reading? : Operation → Option Reading
  | request _ reading => some reading
  | runPending => none

/-- The interface list as the operation finds it, if it looks at all, is this. -/
def Finds (interfaces : Interfaces) (operation : Operation) : Prop :=
  ∀ reading ∈ operation.reading?, reading.interfaces = interfaces

/-- While the operation is performed the address is one of this host's. -/
def FindsLocal (address : String) (operation : Operation) : Prop :=
  ∀ reading ∈ operation.reading?, reading.interfaces.isLocal address = true

/-- When the operation cleans up a category, if it does. -/
def cleanUp? (category : Category) : Operation → Option Instant
  | request (.services asked) reading => if asked = category then some (reading.clock category) else none
  | request .scanAll reading | request .cleanUpAll reading => some (reading.clock category)
  | request (.sighting _) _ | request .sessions _ | request .everything _ | request (.scan _) _ | runPending => none

/-- The operation cleans up the record's category after the record's deadline. -/
def Expires (record : Record) (operation : Operation) : Prop :=
  ∃ now ∈ operation.cleanUp? record.category, record.expiredAt now = true

instance (record : Record) : DecidablePred (Expires record) := fun operation =>
  inferInstanceAs (Decidable (∃ now ∈ operation.cleanUp? record.category, _))

end Operation

namespace Store

variable {store next : Store} {incoming : Sighting} {interfaces : Interfaces} {window : Span} {now : Instant}
  {outcome : MergeOutcome}

/-- An operation that is no sighting cleans the store up or leaves it as it is. -/
theorem after_of_not_sighting (concrete : store.category ≠ .unknown) {operation : Operation}
    (other : ∀ incoming reading, operation ≠ .request (.sighting incoming) reading) :
    store.after window operation = ((operation.cleanUp? store.category).map store.cleanUp).getD store := by
  have listed := Category.mem_concrete_iff.mpr concrete
  cases operation with
  | runPending => rfl
  | request request reading =>
    cases request with
    | sighting incoming => exact absurd rfl (other incoming reading)
    | services asked =>
      by_cases same : asked = store.category
      · simp [after, cleanUpIn, Operation.cleanUp?, same]
      · simp [after, cleanUpIn, Operation.cleanUp?, same, Ne.symm same]
    | scanAll | cleanUpAll => simp [after, cleanUpIn, Operation.cleanUp?, listed]
    | sessions | everything | scan => rfl

/-! ## Records that are not local -/

theorem distant_merges (merges : Merges store incoming interfaces window now next outcome)
    (distant : ∀ record ∈ store.records, interfaces.isLocal record.address = false) :
    ∀ record ∈ next.records, interfaces.isLocal record.address = false := by
  cases merges with
  | refused | unmatched => exact distant
  | refreshed => exact forall_renewFirst (interfaces.isLocal ·.address = false) distant
  | added accepted =>
    -- Only what is not local has been accepted.
    intro record member
    rcases List.mem_append.mp member with old | new
    · exact distant record old
    · rw [List.mem_singleton.mp new]
      exact accepted.2
  | removed => exact fun record member => distant record (List.mem_of_mem_filter member)

theorem distant_after (concrete : store.category ≠ .unknown) {operation : Operation} (finds : operation.Finds interfaces)
    (distant : ∀ record ∈ store.records, interfaces.isLocal record.address = false) :
    ∀ record ∈ (store.after window operation).records, interfaces.isLocal record.address = false := by
  -- Only a sighting looks at the interfaces, and only a clean-up does anything else to the records.
  by_cases sighting : ∃ incoming reading, operation = .request (.sighting incoming) reading
  · obtain ⟨incoming, reading, rfl⟩ := sighting
    have same : reading.interfaces = interfaces := finds reading rfl
    subst same
    exact after_sighting_cases (motive := fun next => ∀ record ∈ next.records, _) distant
      fun merges => distant_merges merges distant
  · rw [after_of_not_sighting concrete (by simpa using sighting)]
    cases operation.cleanUp? store.category with
    | none => exact distant
    | some now => exact fun record member => distant record (List.mem_of_mem_filter member)

/-! ## Records that have become local -/

theorem filter_renewFirst {key other : Key} (different : other ≠ key) (expiry : Instant) (records : List Record) :
    (renewFirst other expiry records).filter (·.key = key) = records.filter (·.key = key) := by
  induction records with
  | nil => rfl
  | cons record rest ih =>
    rw [renewFirst]
    split
    next same =>
      have elsewhere : record.key ≠ key := same ▸ different
      simp [elsewhere]
    next => simp only [List.filter_cons, ih]

/-- A merge leaves what is under a key alone, unless it accepts a sighting of the key. -/
theorem filter_merges (merges : Merges store incoming interfaces window now next outcome) {key : Key}
    (unheard : incoming.key = key → ¬ incoming.Accepted store.category interfaces) :
    next.records.filter (·.key = key) = store.records.filter (·.key = key) := by
  cases merges with
  | refused | unmatched => rfl
  | refreshed accepted => exact filter_renewFirst (fun same => unheard same accepted) _ _
  | @added expiry accepted =>
    have elsewhere : ({ incoming with expiry } : Record).key ≠ key := fun same => unheard same accepted
    simp [elsewhere]
  | removed accepted =>
    -- What is removed was accepted, so it is under another key.
    rw [List.filter_filter]
    refine List.filter_congr fun record _ => ?_
    by_cases here : record.key = key
    · have elsewhere : key ≠ incoming.key := fun same => unheard same.symm accepted
      simp [here, elsewhere]
    · simp [here]

end Store

namespace Catalogue

variable {catalogue : Catalogue}

theorem distant_perform (complete : catalogue.Complete) {interfaces : Interfaces} {operation : Operation}
    (finds : operation.Finds interfaces)
    (distant : ∀ record ∈ catalogue.all, interfaces.isLocal record.address = false) :
    ∀ record ∈ (catalogue.perform operation).catalogue.all, interfaces.isLocal record.address = false :=
  forall_all_perform complete operation
    (fun _ member others => Store.distant_after (complete.concrete member) finds others) distant

/-- As long as the interfaces stay as they are, nothing that is held or has been announced is at a local address. -/
theorem distant_run (window : Span) {interfaces : Interfaces} {operations : List Operation}
    (finds : ∀ operation ∈ operations, operation.Finds interfaces) :
    let past := (empty window).run operations
    (∀ record ∈ past.catalogue.all, interfaces.isLocal record.address = false) ∧
      ∀ change ∈ past.changes, ∀ record ∈ change.services, interfaces.isLocal record.address = false := by
  induction operations using List.reverseRecOn with
  | nil =>
    have nothing : (empty window).all = [] := rfl
    simp [idle, nothing]
  | append_singleton operations operation ih =>
    obtain ⟨held, announced⟩ := ih fun other member => finds other (List.mem_append_left _ member)
    have sound := sound_run window operations
    have next := distant_perform sound.complete (finds operation (by simp)) held
    simp only [catalogue_run_concat, changes_run_concat]
    refine ⟨next, fun change member => ?_⟩
    rcases List.mem_append.mp member with earlier | latest
    · exact announced change earlier
    · -- What is announced is part of what is held then.
      rw [(sound.of_mem_changes latest).2, ← (sound_perform sound operation).filter_all]
      exact fun record listed => next record (List.mem_of_mem_filter listed)

def entries (catalogue : Catalogue) (key : Key) : List Record := catalogue.all.filter (·.key = key)

/-- A key tells in which store its entries are. -/
theorem Sound.entries_eq (sound : catalogue.Sound) {key : Key} {store : Store}
    (found : catalogue.store? key.category = some store) :
    catalogue.entries key = store.records.filter (·.key = key) := by
  have list : catalogue.list key.category = store.records := by simp only [Catalogue.list, found]
  rw [← list, ← sound.filter_all, List.filter_filter, entries]
  refine List.filter_congr fun record _ => ?_
  by_cases here : record.key = key
  · have own : record.category = key.category := congrArg Key.category here
    simp [here, own]
  · simp [here]

theorem Sound.entries_of_mem (sound : catalogue.Sound) {record : Record} (member : record ∈ catalogue.all) :
    catalogue.entries record.key = [record] := by
  obtain ⟨before, after, split⟩ := List.append_of_mem member
  -- No other entry has the key, neither in front nor behind.
  have unique := sound.nodup_keys
  rw [split, List.map_append, List.map_cons, List.nodup_middle, List.nodup_cons, List.mem_append, not_or] at unique
  obtain ⟨⟨front, back⟩, _⟩ := unique
  have none {part : List Record} (absent : record.key ∉ part.map (·.key)) : part.filter (·.key = record.key) = [] :=
    List.filter_eq_nil_iff.mpr fun other inside => by
      simpa using fun same => absent (List.mem_map.mpr ⟨other, inside, same⟩)
  rw [entries, split, List.filter_append, List.filter_cons_of_pos (by simp), none front, none back, List.nil_append]

theorem Sound.entries_sentinel (sound : catalogue.Sound) {key : Key} (sentinel : key.category = .unknown) :
    catalogue.entries key = [] := by
  rw [entries, List.filter_eq_nil_iff]
  intro record member
  have concrete := (sound.of_mem_all member).1
  simpa using fun same : record.key = key => concrete ((congrArg Key.category same).trans sentinel)

/-- The entries under a key after an operation are read off the store of the key's category. -/
theorem Sound.entries_after (sound : catalogue.Sound) (operation : Operation) {key : Key} {store : Store}
    (found : catalogue.store? key.category = some store) :
    (catalogue.perform operation).catalogue.entries key =
      (store.after catalogue.window operation).records.filter (·.key = key) := by
  apply (sound_perform sound operation).entries_eq
  rw [store?_perform sound.complete, found, Option.map_some]

/-- While the address of a key is local, an operation can take entries under it out by a clean-up after their deadline, and
that is all it can do to them. -/
theorem Sound.entries_perform (sound : catalogue.Sound) {operation : Operation} {key : Key}
    (unheard : operation.FindsLocal key.address) :
    (catalogue.perform operation).catalogue.entries key =
      (catalogue.entries key).filter fun record => ¬ operation.Expires record := by
  by_cases concrete : key.category = .unknown
  · rw [sound.entries_sentinel concrete, (sound_perform sound operation).entries_sentinel concrete, List.filter_nil]
  · obtain ⟨store, found⟩ := sound.complete.exists_store concrete
    have own := category_of_store? found
    rw [sound.entries_eq found, sound.entries_after operation found]
    by_cases sighting : ∃ incoming reading, operation = .request (.sighting incoming) reading
    · obtain ⟨incoming, reading, rfl⟩ := sighting
      have kept (record : Record) : ¬ (Operation.request (.sighting incoming) reading).Expires record := by
        simp [Operation.Expires, Operation.cleanUp?]
      simp only [kept, not_false_eq_true, decide_true, List.filter_true]
      have isLocal : reading.interfaces.isLocal key.address = true := unheard reading rfl
      refine Store.after_sighting_cases (motive := fun next => next.records.filter (·.key = key) = _) rfl fun merges => ?_
      refine Store.filter_merges merges fun same accepted => ?_
      have distant : reading.interfaces.isLocal key.address = false := congrArg Key.address same ▸ accepted.2
      rw [isLocal] at distant
      cases distant
    · rw [Store.after_of_not_sighting (own ▸ concrete) (by simpa using sighting), List.filter_filter, own]
      have expires {record : Record} (here : record.key = key) : operation.Expires record ↔
          ∃ now ∈ operation.cleanUp? key.category, record.expiredAt now = true := by
        have same : record.category = key.category := congrArg Key.category here
        rw [Operation.Expires, same]
      cases cleaned : operation.cleanUp? key.category with
      | none =>
        refine List.filter_congr fun record _ => ?_
        by_cases here : record.key = key <;> simp [here, expires, cleaned]
      | some now =>
        simp only [Option.map_some, Option.getD_some, Store.cleanUp, List.filter_filter]
        refine List.filter_congr fun record _ => ?_
        by_cases here : record.key = key <;> simp [here, expires, cleaned]

theorem entries_run (window : Span) (earlier later : List Operation) {key : Key}
    (unheard : ∀ operation ∈ later, operation.FindsLocal key.address) :
    ((empty window).run (earlier ++ later)).catalogue.entries key =
      (((empty window).run earlier).catalogue.entries key).filter fun record =>
        ¬ ∃ operation ∈ later, operation.Expires record := by
  induction later using List.reverseRecOn with
  | nil => simp
  | append_singleton later operation ih =>
    rw [← List.append_assoc, catalogue_run_concat,
      (sound_run window (earlier ++ later)).entries_perform (unheard operation (by simp)),
      ih fun other member => unheard other (List.mem_append_left _ member), List.filter_filter]
    refine List.filter_congr fun record _ => ?_
    simp only [List.mem_append, List.mem_singleton, or_and_right, exists_or, exists_eq_left, not_or, Bool.decide_and,
      Bool.and_comm]

/-- As long as the interface list can be read and stays as it is, no record at one of its addresses, however it is written,
is held, announced or answered. If the address of an entry becomes local, then as long as it is, no sighting and no
deregistration of the address does anything, and the entry stays as it is until a clean-up comes after its deadline. -/
theorem local_addresses_stay_out (window : Span) (operations : List Operation) :
    let past := (empty window).run operations
    (∀ own, (∀ operation ∈ operations, operation.Finds (.readable own)) →
      (∀ record ∈ past.catalogue.all, ¬ Net.Denotes own record.address) ∧
      (∀ change ∈ past.changes, ∀ record ∈ change.services, ¬ Net.Denotes own record.address) ∧
      ∀ operation : Operation, operation.Finds (.readable own) → ∀ records,
        (past.catalogue.perform operation).answer = some records →
        ∀ record ∈ records, ¬ Net.Denotes own record.address) ∧
    ∀ record ∈ past.catalogue.all, ∀ later : List Operation,
      (∀ operation ∈ later, operation.FindsLocal record.address) →
      let next := ((empty window).run (operations ++ later)).catalogue
      next.entries record.key = (if ∃ operation ∈ later, operation.Expires record then [] else [record]) ∧
      ∀ (incoming : Sighting) (reading : Reading), incoming.address = record.address →
        reading.interfaces.isLocal record.address = true →
        let step := next.perform (.request (.sighting incoming) reading)
        step.catalogue = next ∧ step.changes = [] := by
  intro past
  have sound : past.catalogue.Sound := sound_run window operations
  refine ⟨fun own finds => ?_, fun record member later unheard => ?_⟩
  · have distant {text : String} (distant : (Interfaces.readable own).isLocal text = false) : ¬ Net.Denotes own text := by
      rw [← Net.isLocal_readable_iff, distant]
      exact Bool.false_ne_true
    obtain ⟨held, announced⟩ := distant_run window finds
    refine ⟨fun record member => distant (held record member),
      fun change member record listed => distant (announced change member record listed), ?_⟩
    intro operation reads records answered record member
    have next := distant_perform sound.complete reads held
    rcases answer_perform answered with ⟨category, rfl⟩ | rfl
    · rw [← (sound_perform sound operation).filter_all] at member
      exact distant (next record (List.mem_of_mem_filter member))
    · exact distant (next record member)
  · intro next
    refine ⟨?_, fun incoming reading same isLocal => ?_⟩
    · have left : next.entries record.key = _ := entries_run window operations later unheard
      rw [left, sound.entries_of_mem member]
      split
      next expired => simp [expired]
      next lasting => simpa using lasting
    · obtain ⟨logs, handled⟩ := ignores_of_local (complete_run window (operations ++ later)) (same ▸ isLocal)
      simp only [perform, next, handled]
      exact ⟨rfl, rfl⟩

/-- The board of which the runs below are told. -/
def board (live : Bool) : Sighting := ⟨.wled, "10.0.0.5", 80, "attic", live⟩

/-- At this second, with an interface at an address that ends in this octet. -/
def among (second : Int) (octet : UInt8) : Reading :=
  ⟨fun _ => (Instant.ofParts? second 0).getD .epoch, .readable [.v4 #v[10, 0, 0, octet]]⟩

/-- An interface takes over the address of the board: it can be deregistered no more, and outlives its deadline by no
clean-up but the one that comes when that has passed. -/
theorem local_addresses_stay_out_readdressed :
    let sighted : List Operation := [.request (.sighting (board true)) (among 0 2)]
    let later : List Operation := [.request (.sighting (board true)) (among 4 5),
      .request (.sighting (board false)) (among 5 5), .request .cleanUpAll (among 10 5)]
    let last : Operation := .request .cleanUpAll (among 11 5)
    (∀ operation ∈ sighted, operation.Finds (.readable [.v4 #v[10, 0, 0, 2]])) ∧
    (∀ operation ∈ later ++ [last], operation.FindsLocal (board true).address) ∧
    (((empty (.ofSeconds 10)).run (sighted ++ later)).catalogue.entries (board true).key).length = 1 ∧
    ((empty (.ofSeconds 10)).run (sighted ++ (later ++ [last]))).catalogue.entries (board true).key = [] := by
  intro sighted later last
  have finds : ∀ operation ∈ sighted, operation.Finds (.readable [.v4 #v[10, 0, 0, 2]]) := by
    simp [sighted, Operation.Finds, Operation.reading?, among]
  have findsLocal : ∀ operation ∈ later ++ [last], operation.FindsLocal (board true).address := by
    have isLocal : (Interfaces.readable [.v4 #v[10, 0, 0, 5]]).isLocal "10.0.0.5" = true := by decide +kernel
    simp [later, last, Operation.FindsLocal, Operation.reading?, among, board, isLocal]
  let entry : Record := { board true with expiry := (among 10 5).clock .wled }
  have held : entry ∈ ((empty (.ofSeconds 10)).run sighted).catalogue.all := by decide +kernel
  have entries (others : List Operation) (part : ∀ operation ∈ others, operation ∈ later ++ [last]) :=
    ((local_addresses_stay_out (.ofSeconds 10) sighted).2 _ held others
      fun operation member => findsLocal operation (part operation member)).1
  refine ⟨finds, findsLocal, ?_, ?_⟩
  · have left := entries later fun _ member => List.mem_append_left _ member
    rw [if_neg (by decide +kernel)] at left
    exact congrArg List.length left
  · have left := entries (later ++ [last]) fun _ member => member
    rwa [if_pos (by decide +kernel)] at left

end Catalogue

end Discovery
