import Discovery.Proofs.Catalogue.Announcements
/-!
# Categories apart

The stores share a clock, a queue of scans, a fingerprint and one channel for what is announced, and some operations act on
all of them. Still, what is kept and announced of a category is told by the sightings of that category and by the clean-ups
that reach it: of two runs that agree in these, nobody who looks at this category alone can tell which one it is.
-/
namespace Discovery

open Time (Instant Span)

/-- The operation neither sights anything of the category nor cleans it up. -/
def Operation.Spares (category : Category) : Operation → Prop
  | .request (.sighting incoming) _ => incoming.category ≠ category
  | .request (.services asked) _ => asked ≠ category
  | .request .scanAll _ | .request .cleanUpAll _ => False
  | .request .sessions _ | .request .everything _ | .request (.scan _) _ | .runPending => True

/-- An operation of a run, and whether it stays in when others are left out. -/
structure Pick where
  operation : Operation
  kept : Bool

/-- The run as it was picked from. -/
def wholeRun (picks : List Pick) : List Operation := picks.map (·.operation)

/-- The run that is left. -/
def keptRun (picks : List Pick) : List Operation := (picks.filter (·.kept)).map (·.operation)

theorem wholeRun_concat (picks : List Pick) (pick : Pick) :
    wholeRun (picks ++ [pick]) = wholeRun picks ++ [pick.operation] := by
  simp [wholeRun]

theorem keptRun_concat (picks : List Pick) (pick : Pick) :
    keptRun (picks ++ [pick]) = keptRun picks ++ if pick.kept then [pick.operation] else [] := by
  cases kept : pick.kept <;> simp [keptRun, kept]

namespace Store

theorem after_of_spares {store : Store} {operation : Operation} (spares : operation.Spares store.category)
    (window : Span) : store.after window operation = store := by
  cases operation with
  | runPending => rfl
  | request request reading =>
    cases request with
    | sighting incoming => exact after_sighting_of_foreign (Ne.symm spares) window reading
    | services asked =>
      have other : store.category ∉ [asked] := by simpa using Ne.symm spares
      exact cleanUpIn_of_notMem other
    | sessions | everything | scan => rfl
    | scanAll | cleanUpAll => exact spares.elim

end Store

namespace Catalogue

variable {left right : Catalogue} {category : Category} {operation : Operation}

/-- Whoever looks at one category only cannot tell the two apart. -/
structure Alike (category : Category) (left right : Catalogue) : Prop where
  complete : left.Complete ∧ right.Complete
  store : left.store? category = right.store? category
  window : left.window = right.window

theorem Alike.refl (complete : left.Complete) : Alike category left left := ⟨⟨complete, complete⟩, rfl, rfl⟩

theorem Alike.symm (alike : Alike category left right) : Alike category right left :=
  ⟨alike.complete.symm, alike.store.symm, alike.window.symm⟩

theorem Alike.trans {other : Catalogue} (first : Alike category left right) (second : Alike category right other) :
    Alike category left other :=
  ⟨⟨first.complete.1, second.complete.2⟩, first.store.trans second.store, first.window.trans second.window⟩

theorem Alike.list (alike : Alike category left right) : left.list category = right.list category := by
  simp only [Catalogue.list, alike.store]

/-- What an operation does and announces in a category only depends on the store of that category. -/
theorem Alike.perform (alike : Alike category left right) (operation : Operation) :
    Alike category (left.perform operation).catalogue (right.perform operation).catalogue ∧
      (left.perform operation).announced category = (right.perform operation).announced category := by
  obtain ⟨⟨whole, full⟩, store, window⟩ := alike
  have first := pointwise_perform whole operation
  have second := pointwise_perform full operation
  refine ⟨⟨⟨complete_perform whole operation, complete_perform full operation⟩, ?_, ?_⟩, ?_⟩
  · rw [store?_perform whole, store?_perform full, store, window]
  · rw [first.window, second.window, window]
  · rw [first.announced, second.announced, store, window]

/-- An operation that spares the category leaves no trace in it. -/
theorem alike_perform (complete : left.Complete) (spares : operation.Spares category) :
    Alike category (left.perform operation).catalogue left ∧ (left.perform operation).announced category = [] := by
  have pointwise := pointwise_perform complete operation
  have unmoved : ∀ store, left.store? category = some store → store.after left.window operation = store := by
    intro store found
    have own := category_of_store? found
    exact Store.after_of_spares (own ▸ spares) left.window
  refine ⟨⟨⟨complete_perform complete operation, complete⟩, ?_, pointwise.window⟩, ?_⟩
  · rw [store?_perform complete]
    cases found : left.store? category with
    | none => rfl
    | some store => exact congrArg some (unmoved store found)
  · rw [pointwise.announced]
    cases found : left.store? category with
    | none => rfl
    | some store => simp [unmoved store found]

/-- Leaving out what spares a category changes nothing in it. -/
theorem alike_run (window : Span) {picks : List Pick}
    (spared : ∀ pick ∈ picks, pick.kept = false → pick.operation.Spares category) :
    let whole := (empty window).run (wholeRun picks)
    let left := (empty window).run (keptRun picks)
    Alike category left.catalogue whole.catalogue ∧ left.announced category = whole.announced category := by
  induction picks using List.reverseRecOn with
  | nil => exact ⟨.refl (complete_empty window), rfl⟩
  | append_singleton picks pick ih =>
    obtain ⟨alike, announced⟩ := ih fun other member => spared other (List.mem_append_left _ member)
    rw [wholeRun_concat, keptRun_concat]
    simp only [catalogue_run_concat, announced_run_concat]
    cases kept : pick.kept with
    | true =>
      -- Both runs perform the operation, on what is the same to this category.
      obtain ⟨after, same⟩ := alike.perform pick.operation
      simp only [if_true, catalogue_run_concat, announced_run_concat, announced, same]
      exact ⟨after, trivial⟩
    | false =>
      have spares := spared pick (by simp) kept
      obtain ⟨after, silent⟩ := alike_perform alike.complete.2 spares
      simp only [Bool.false_eq_true, if_false, List.append_nil, silent, announced]
      exact ⟨alike.trans after.symm, trivial⟩

/-- Whatever is left out of a run that neither sights anything of a category nor cleans it up, the list of the category is
the same after each operation that stays, deadlines included, and the same lists are announced of it. -/
theorem other_categories_do_not_interfere (window : Span) (category : Category) (picks : List Pick)
    (spared : ∀ pick ∈ picks, pick.kept = false → pick.operation.Spares category) :
    (∀ past operation rest, picks = past ++ ⟨operation, true⟩ :: rest →
      ((empty window).run (keptRun past ++ [operation])).catalogue.list category =
        ((empty window).run (wholeRun past ++ [operation])).catalogue.list category) ∧
    ((empty window).run (keptRun picks)).announced category = ((empty window).run (wholeRun picks)).announced category := by
  constructor
  · intro past operation rest split
    have before : ∀ pick ∈ past ++ [⟨operation, true⟩], pick.kept = false → pick.operation.Spares category := by
      intro pick member
      refine spared pick ?_
      rw [split, List.append_cons]
      exact List.mem_append_left rest member
    have same := (alike_run window before).1.list
    rwa [wholeRun_concat, keptRun_concat] at same
  · exact (alike_run window spared).2

/-- A lamp is sighted, and after it a bridge of another family. The lamp is gone at the clean-up after its deadline, whether
anything has been heard or asked of the bridge or not. -/
theorem other_categories_do_not_interfere_lamp :
    let reading (second : Int) : Reading := ⟨fun _ => (Instant.ofParts? second 0).getD .epoch, .readable []⟩
    let lamp : Sighting := ⟨.wled, "10.0.0.5", 80, "attic", true⟩
    let bridge : Sighting := ⟨.hue, "10.0.0.6", 443, "cellar", true⟩
    let picks : List Pick := [⟨.request (.sighting lamp) (reading 0), true⟩, ⟨.request (.sighting bridge) (reading 1), false⟩,
      ⟨.request (.services .hue) (reading 2), false⟩, ⟨.request (.scan .wled) (reading 3), false⟩, ⟨.runPending, false⟩,
      ⟨.request .sessions (reading 4), false⟩, ⟨.request .cleanUpAll (reading 11), true⟩]
    (∀ pick ∈ picks, pick.kept = false → pick.operation.Spares .wled) ∧
    (((empty (.ofSeconds 10)).run (keptRun picks)).announced .wled).map (·.map (·.hostName)) = [["attic"], []] ∧
    ((empty (.ofSeconds 10)).run (keptRun picks)).announced .wled =
      ((empty (.ofSeconds 10)).run (wholeRun picks)).announced .wled := by
  intro reading lamp bridge picks
  have spared : ∀ pick ∈ picks, pick.kept = false → pick.operation.Spares .wled := by
    simp [picks, bridge, Operation.Spares]
  exact ⟨spared, by decide +kernel, (other_categories_do_not_interfere (.ofSeconds 10) .wled picks spared).2⟩

end Catalogue

end Discovery
