import Discovery.Time.Instant
/-!
# Moving on in time

Spans that are not negative lead from an instant to later ones, in the order of the spans, and two of them in a row lead as
far as their sum. A leap second does not disturb this: time moves on within it, and out of it as if it were the second
before.
-/
namespace Discovery.Time.Instant

variable {start reached last first second : Instant} {span other : Span}

theorem ofParts?_eq_some_iff {seconds : Int} {nanos : Nat} :
    ofParts? seconds nanos = some reached ↔ reached.seconds = seconds ∧ reached.nanos = nanos := by
  constructor
  · intro parts
    unfold ofParts? at parts
    split at parts
    · split at parts
      · cases parts
        exact ⟨rfl, rfl⟩
      · cases parts
    · cases parts
  · rintro ⟨rfl, rfl⟩
    exact ofParts?_self reached

/-- The instant is not in a leap second, and so many nanoseconds after the epoch. -/
def Flat (instant : Instant) (nanos : Int) : Prop :=
  instant.nanos < billion ∧ instant.seconds * billion + instant.nanos = nanos

theorem shift?_eq_some_iff {seconds nanos : Int} :
    shift? seconds nanos span = some reached ↔ reached.Flat (seconds * billion + nanos + span.nanos) := by
  rw [shift?, ofParts?_eq_some_iff, Flat]
  generalize seconds * billion + nanos + span.nanos = total
  simp only [billion]
  omega

/-! ## From where a span leads to where -/

theorem add?_of_plain (plain : start.nanos < billion) :
    start.add? span = some reached ↔ reached.Flat (start.seconds * billion + start.nanos + span.nanos) := by
  rw [add?]
  simp only [plain, if_true, shift?_eq_some_iff]

/-- A span that is not negative leads out of a leap second if that does not last long enough. -/
theorem leaves_iff (forward : 0 ≤ span.nanos) (leap : billion ≤ start.nanos) :
    (0 < span.nanos.tdiv billion ∨
      0 < span.nanos.tmod billion ∧ 2 * billion ≤ start.nanos + span.nanos.tmod billion) ↔
      2 * billion ≤ start.nanos + span.nanos := by
  have bound := start.fraction
  rw [Int.tdiv_eq_ediv_of_nonneg forward, Int.tmod_eq_emod_of_nonneg forward]
  simp only [billion] at *
  omega

theorem add?_of_leaving (forward : 0 ≤ span.nanos) (leap : billion ≤ start.nanos)
    (leaves : 2 * billion ≤ start.nanos + span.nanos) :
    start.add? span = some reached ↔ reached.Flat (start.seconds * billion + (start.nanos - billion) + span.nanos) := by
  rw [add?]
  simp only [Nat.not_lt.mpr leap, if_false, if_pos ((leaves_iff forward leap).mpr leaves), shift?_eq_some_iff]

theorem add?_of_staying (forward : 0 ≤ span.nanos) (leap : billion ≤ start.nanos)
    (stays : start.nanos + span.nanos < 2 * billion) :
    start.add? span = some reached ↔ reached.seconds = start.seconds ∧ reached.nanos = start.nanos + span.nanos := by
  have whole : span.nanos.tdiv billion = 0 := by
    rw [Int.tdiv_eq_ediv_of_nonneg forward]
    simp only [billion] at *
    omega
  have part : span.nanos.tmod billion = span.nanos := by
    rw [Int.tmod_eq_emod_of_nonneg forward]
    simp only [billion] at *
    omega
  have remains : ¬ _ := mt (leaves_iff forward leap).mp (Int.not_le.mpr stays)
  rw [add?]
  simp only [Nat.not_lt.mpr leap, if_false, if_neg remains]
  simp only [whole, part, Int.lt_irrefl, if_false, ofParts?_eq_some_iff]
  omega

/-! ## Two spans -/

/-- The spans of two moves in a row add up. -/
theorem add?_add? (forward : 0 ≤ span.nanos) (onward : 0 ≤ other.nanos) (reaches : start.add? span = some reached) :
    reached.add? other = start.add? ⟨span.nanos + other.nanos⟩ := by
  have both : 0 ≤ (⟨span.nanos + other.nanos⟩ : Span).nanos := Int.add_nonneg forward onward
  refine Option.ext fun last => ?_
  by_cases plain : start.nanos < billion
  · obtain ⟨small, flat⟩ := (add?_of_plain plain).mp reaches
    rw [add?_of_plain plain, add?_of_plain small, flat, Int.add_assoc _ span.nanos]
  · have leap : billion ≤ start.nanos := Nat.le_of_not_lt plain
    by_cases leaves : 2 * billion ≤ start.nanos + span.nanos
    · obtain ⟨small, flat⟩ := (add?_of_leaving forward leap leaves).mp reaches
      have later : 2 * billion ≤ start.nanos + (span.nanos + other.nanos) := by omega
      rw [add?_of_leaving both leap later, add?_of_plain small, flat, Int.add_assoc _ span.nanos]
    · -- The first span stays within the leap second, and the second one may lead out of it.
      obtain ⟨same, nanos⟩ := (add?_of_staying forward leap (Int.not_le.mp leaves)).mp reaches
      have within : billion ≤ reached.nanos := by omega
      by_cases later : 2 * billion ≤ start.nanos + (span.nanos + other.nanos)
      · rw [add?_of_leaving both leap later, add?_of_leaving onward within (by omega), same, nanos]
        simp only [Int.add_assoc, Int.sub_eq_add_neg, Int.add_left_comm span.nanos]
      · rw [add?_of_staying both leap (Int.not_le.mp later), add?_of_staying onward within (by omega), same, nanos,
          Int.add_assoc]

/-- Moves from the same instant lead to instants in the order of their spans. -/
theorem before_iff (forward : 0 ≤ span.nanos) (onward : 0 ≤ other.nanos) (reaches : start.add? span = some first)
    (also : start.add? other = some second) : first.before second = true ↔ span.nanos < other.nanos := by
  simp only [before, Bool.or_eq_true, Bool.and_eq_true, decide_eq_true_eq, beq_iff_eq]
  by_cases plain : start.nanos < billion
  · obtain ⟨small, flat⟩ := (add?_of_plain plain).mp reaches
    obtain ⟨little, even⟩ := (add?_of_plain plain).mp also
    simp only [billion] at *
    omega
  · have leap : billion ≤ start.nanos := Nat.le_of_not_lt plain
    -- What leaves the leap second is in a later one, and so behind all that stays.
    have leads {span : Span} {reached : Instant} (forward : 0 ≤ span.nanos) (reaches : start.add? span = some reached) :
        reached.Flat (start.seconds * billion + (start.nanos - billion) + span.nanos) ∧
            2 * billion ≤ start.nanos + span.nanos ∨
          reached.seconds = start.seconds ∧ reached.nanos = start.nanos + span.nanos ∧
            start.nanos + span.nanos < 2 * billion := by
      by_cases leaves : 2 * billion ≤ start.nanos + span.nanos
      · exact .inl ⟨(add?_of_leaving forward leap leaves).mp reaches, leaves⟩
      · have stays := (add?_of_staying forward leap (Int.not_le.mp leaves)).mp reaches
        exact .inr ⟨stays.1, stays.2, Int.not_le.mp leaves⟩
    rcases leads forward reaches with ⟨⟨small, flat⟩, late⟩ | ⟨same, nanos, early⟩ <;>
      rcases leads onward also with ⟨⟨little, even⟩, later⟩ | ⟨equal, more, earlier⟩ <;>
      simp only [billion] at * <;> omega

end Discovery.Time.Instant
