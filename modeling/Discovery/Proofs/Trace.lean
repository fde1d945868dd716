import Mathlib.Data.List.Basic
/-!
# Traces

What has happened is a list that grows at its end, and what is proved of it is proved of the last entry and of those
before it.
-/
namespace Discovery

/-- A place in a longer trace is the new entry, or it is a place in the trace before. -/
theorem split_concat {α : Type} {entries before behind : List α} {entry found : α}
    (split : entries ++ [entry] = before ++ found :: behind) :
    (before = entries ∧ found = entry ∧ behind = []) ∨
      ∃ rest, behind = rest ++ [entry] ∧ entries = before ++ found :: rest := by
  rcases List.eq_nil_or_concat behind with rfl | ⟨rest, last, rfl⟩
  · obtain ⟨same, only⟩ := List.append_inj' split rfl
    exact .inl ⟨same.symm, (List.singleton_inj.mp only).symm, rfl⟩
  · have split : entries ++ [entry] = (before ++ found :: rest) ++ [last] := by simpa using split
    obtain ⟨same, only⟩ := List.append_inj' split rfl
    exact .inr ⟨rest, by simpa using only.symm, same⟩

theorem eq_length_of_range {number found : Nat} {before behind : List Nat}
    (split : List.range number = before ++ found :: behind) : found = before.length := by
  have place := congrArg (·[before.length]?) split
  simp only [List.getElem?_append_right (Nat.le_refl _), Nat.sub_self, List.getElem?_cons_zero] at place
  rw [List.getElem?_eq_some_iff] at place
  obtain ⟨inside, same⟩ := place
  rw [← same, List.getElem_range]

end Discovery
