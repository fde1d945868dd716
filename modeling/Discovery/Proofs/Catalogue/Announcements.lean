import Discovery.Proofs.Catalogue.Run
import Mathlib.Data.List.Chain
import Mathlib.Data.List.Induction
/-!
# Announcements

A catalogue announces a category's list whenever, and only when, the members of the category change, and it
publishes the fingerprint of everything it holds at the same time. So whoever keeps the list of each category
as last announced knows all members, and the fingerprint as last published is never stale.
-/
namespace Discovery

open Time (Span)

namespace Catalogue

variable {catalogue : Catalogue}

/-- An operation announces a category once if it changes its members and not at all otherwise. -/
theorem announced_perform (complete : catalogue.Complete) (operation : Operation) (category : Category) :
    (catalogue.perform operation).announced category =
      if members ((catalogue.perform operation).catalogue.list category) = members (catalogue.list category) then []
      else [(catalogue.perform operation).catalogue.list category] := by
  rw [(pointwise_perform complete operation).announced]
  simp only [list, store?_perform complete]
  cases catalogue.store? category with
  | none => rfl
  | some store => rfl

theorem length_list_perform (complete : catalogue.Complete) {operation : Operation} {category : Category}
    (changed : members ((catalogue.perform operation).catalogue.list category) ≠ members (catalogue.list category)) :
    ((catalogue.perform operation).catalogue.list category).length ≠ (catalogue.list category).length := by
  simp only [list, store?_perform complete] at changed ⊢
  cases found : catalogue.store? category with
  | none => simp [found] at changed
  | some store =>
    simp only [found, Option.map_some] at changed ⊢
    exact Store.length_after changed

end Catalogue

/-- The list of a category as last announced, empty before the first announcement. -/
def Step.latest (step : Step) (category : Category) : List Record := (step.announced category).getLast?.getD []

namespace Catalogue

/-- What was announced last has the members that the category has now. -/
theorem members_latest_run (window : Span) (operations : List Operation) (category : Category) :
    members (((empty window).run operations).latest category) =
      members (((empty window).run operations).catalogue.list category) := by
  induction operations using List.reverseRecOn with
  | nil =>
    have none : (empty window).list category = [] := by cases category <;> rfl
    simp [Step.latest, Step.announced, idle, none]
  | append_singleton operations operation ih =>
    have complete := complete_run window operations
    simp only [Step.latest] at ih ⊢
    rw [announced_run_concat, catalogue_run_concat, announced_perform complete]
    split
    next same =>
      -- Silence keeps the latest list, and the members of the category are still the same.
      rw [List.append_nil, ih, same]
    next => simp

/-- Every change of a category is announced when it happens, once and with the list it leads to. The list as last
announced therefore has the members, in the same order, that the category has now, and each announced list is longer
or shorter than the one before it, the first one than the empty list. -/
theorem announcements_follow_members (window : Span) (operations : List Operation) (category : Category) :
    let past := (empty window).run operations
    (∀ operation : Operation,
      let next := past.catalogue.perform operation
      next.announced category =
        if members (next.catalogue.list category) = members (past.catalogue.list category) then []
        else [next.catalogue.list category]) ∧
    members (past.latest category) = members (past.catalogue.list category) ∧
    ([] :: past.announced category).IsChain fun earlier later => earlier.length ≠ later.length := by
  refine ⟨fun operation => announced_perform (complete_run window operations) operation category,
    members_latest_run window operations category, ?_⟩
  induction operations using List.reverseRecOn with
  | nil => exact List.isChain_singleton _
  | append_singleton operations operation ih =>
    have complete := complete_run window operations
    rw [announced_run_concat, announced_perform complete]
    split
    · simpa using ih
    next changed =>
      -- The list announced before has the members of before, so as many records as there were.
      rw [← List.cons_append, List.isChain_append]
      refine ⟨ih, List.isChain_singleton _, ?_⟩
      intro earlier last later first
      have same := congrArg List.length (members_latest_run window operations category)
      simp only [Step.latest, length_members] at same
      rw [List.getLast?_cons, Option.mem_some] at last
      rw [List.head?_cons, Option.mem_some] at first
      rw [← last, ← first, same]
      exact (length_list_perform complete changed).symm

/-- After every operation the fingerprint as published is that of all records held, also where the operation
published nothing. -/
theorem published_fingerprint_is_current (window : Span) (operations : List Operation) :
    let catalogue := ((empty window).run operations).catalogue
    catalogue.fingerprint = Discovery.fingerprint catalogue.all := by
  have both := run_induction (motive := fun catalogue =>
    catalogue.Complete ∧ catalogue.fingerprint = Discovery.fingerprint catalogue.all) ⟨complete_empty window, rfl⟩
    (fun _ operation ⟨complete, current⟩ =>
      ⟨complete_perform complete operation, (pointwise_perform complete operation).published current⟩) operations
  exact both.2

end Catalogue

end Discovery
