import Discovery.Proofs.Catalogue.Run
import Mathlib.Data.Set.Insert
/-!
# The keys of a category

As long as no entry of a category expires, the keys in its list are moved by sightings of that category and by nothing
else, and how they are moved can be told without looking at the records.
-/
namespace Discovery

open Net (Interfaces)
open Time (Instant)

/-- What becomes of a set of keys when a sighting of their category arrives. -/
def Sighting.moves (interfaces : Interfaces) (keys : Set Key) (incoming : Sighting) : Set Key :=
  if interfaces.isLocal incoming.address then keys
  else if incoming.live then insert incoming.key keys
  else keys \ {incoming.key}

/-- The sighting that a request brings to a category. -/
def Request.about? (request : Request) (category : Category) : Option Sighting :=
  match request with
  | .sighting incoming => if incoming.category = category then some incoming else none
  | _ => none

namespace Store

def keys (store : Store) : Set Key := { key | key ∈ store.records.map (·.key) }

theorem keys_merges {store next : Store} {incoming : Sighting} {interfaces : Interfaces} {window : Time.Span}
    {now : Instant} {outcome : MergeOutcome} (own : incoming.category = store.category)
    (merges : Merges store incoming interfaces window now next outcome) :
    next.keys = incoming.moves interfaces store.keys := by
  cases merges with
  | refused refused =>
    have isLocal : interfaces.isLocal incoming.address = true := by
      simpa [Sighting.Accepted, own] using refused
    simp [Sighting.moves, isLocal]
  | refreshed accepted live _ held =>
    have held : incoming.key ∈ store.keys := held
    simp only [Sighting.moves, accepted.2, live, Bool.false_eq_true, if_false, if_true, Set.insert_eq_of_mem held]
    simp only [keys, keys_renewFirst]
  | added accepted live =>
    simp only [Sighting.moves, accepted.2, live, Bool.false_eq_true, if_false, if_true]
    ext key
    simp [keys, or_comm, eq_comm]
  | removed accepted gone =>
    simp only [Sighting.moves, accepted.2, gone, Bool.false_eq_true, if_false]
    ext key
    simp only [keys, Set.mem_ofPred_eq, Set.mem_sdiff, Set.mem_singleton_iff, List.mem_map, List.mem_filter]
    grind
  | unmatched accepted gone absent =>
    have absent : incoming.key ∉ store.keys := absent
    simp only [Sighting.moves, accepted.2, gone, Bool.false_eq_true, if_false]
    ext key
    exact ⟨fun held => ⟨held, fun same => absent (same ▸ held)⟩, And.left⟩

/-- A clean-up of a store in which nothing has expired changes nothing. -/
theorem cleanUpIn_of_timely {store : Store} {categories : List Category} {clock : Category → Instant}
    (timely : ∀ record ∈ store.records, record.expiredAt (clock store.category) = false) :
    store.cleanUpIn categories clock = store := by
  unfold cleanUpIn
  split
  · exact cleanUp_eq_self (by simpa [expired] using timely)
  · rfl

end Store

namespace Catalogue

/-- The keys of the entries of a category. -/
def keys (catalogue : Catalogue) (category : Category) : Set Key := { key | key ∈ (catalogue.list category).map (·.key) }

theorem keys_eq {catalogue : Catalogue} {category : Category} {store : Store}
    (found : catalogue.store? category = some store) : catalogue.keys category = store.keys := by
  simp only [keys, list, found, Store.keys]

/-- A request moves the keys of a category by the sighting that it brings to it, if it brings one. -/
theorem keys_handle {catalogue : Catalogue} (complete : catalogue.Complete) {category : Category}
    (concrete : category ≠ .unknown) {reading : Reading} {request : Request} {step : Step}
    (handled : catalogue.handle reading request = .ok step)
    (timely : ∀ record ∈ catalogue.list category, record.expiredAt (reading.clock category) = false) :
    step.catalogue.keys category =
      (request.about? category).toList.foldl (Sighting.moves reading.interfaces) (catalogue.keys category) := by
  -- What the request does to the catalogue, it does to every store by itself.
  obtain ⟨store, found⟩ := complete.exists_store concrete
  have own := category_of_store? found
  have after := store?_perform complete (.request request reading) category
  rw [perform_of_handle handled, found, Option.map_some] at after
  have timely : ∀ record ∈ store.records, record.expiredAt (reading.clock store.category) = false := by
    simpa only [own, list, found] using timely
  rw [keys_eq after, keys_eq found]
  cases request with
  | sighting incoming =>
    by_cases same : incoming.category = category
    · subst same
      simp only [handle, sight, found] at handled
      cases merged : store.merge incoming reading.interfaces catalogue.window (reading.clock incoming.category) with
      | error => simp [merged, bind, Except.bind] at handled
      | ok merge =>
        have moved := Store.keys_merges own.symm (Store.merges_of_merge merged)
        simpa [Request.about?, Store.after, merged] using moved
    · have foreign : store.category ≠ incoming.category := fun equal => same (equal.symm.trans own)
      simp [Request.about?, same, Store.after_sighting_of_foreign foreign]
  | services | scanAll | cleanUpAll => simp [Request.about?, Store.after, Store.cleanUpIn_of_timely timely]
  | sessions | everything | scan => rfl

end Catalogue

end Discovery
