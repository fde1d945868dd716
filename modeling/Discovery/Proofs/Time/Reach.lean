import Discovery.Proofs.Time.Advance
/-!
# Instants within reach

The instants that can be represented are those of a range of years. A span leads from an instant to one of them exactly if
the nanosecond that it leads to is in that range.
-/
namespace Discovery.Time

/-- A nanosecond, counted from the epoch, of a representable second. -/
def Representable (nanos : Int) : Prop := earliest * billion ≤ nanos ∧ nanos < (latest + 1) * billion

instance : DecidablePred Representable := fun _ => inferInstanceAs (Decidable (_ ∧ _))

namespace Instant

variable {start : Instant} {span : Span}

/-- The nanosecond to which a span leads. What has passed of a leap second does not count, unless a second or more
leads back from it. -/
def target (start : Instant) (span : Span) : Int :=
  start.seconds * billion + start.nanos + span.nanos -
    if billion ≤ start.nanos ∧ -(billion : Int) < span.nanos then billion else 0

theorem isSome_ofParts? {seconds : Int} {nanos : Nat} :
    (ofParts? seconds nanos).isSome = true ↔ (earliest ≤ seconds ∧ seconds ≤ latest) ∧
      (nanos < billion ∨ (nanos < 2 * billion ∧ seconds % 60 = 59)) := by
  unfold ofParts?
  split
  next inRange =>
    split
    next fraction => simp [inRange, fraction]
    next fraction => simp [fraction]
  next outside => simp [outside]

theorem isSome_shift? {seconds nanos : Int} :
    (shift? seconds nanos span).isSome = true ↔ Representable (seconds * billion + nanos + span.nanos) := by
  rw [shift?, isSome_ofParts?, Representable]
  generalize seconds * billion + nanos + span.nanos = total
  simp only [billion]
  omega

/-- The whole seconds of a span are counted toward zero: what is left has the sign of the span. -/
theorem parts_of_span (span : Span) :
    span.nanos = span.nanos.tdiv billion * billion + span.nanos.tmod billion ∧
      (-(billion : Int) < span.nanos.tmod billion ∧ span.nanos.tmod billion < billion) ∧
      (0 ≤ span.nanos → 0 ≤ span.nanos.tmod billion) ∧ (span.nanos ≤ 0 → span.nanos.tmod billion ≤ 0) := by
  have positive : (0 : Int) < billion := by decide
  refine ⟨(Int.tdiv_mul_add_tmod _ _).symm, ⟨Int.lt_tmod_of_pos _ positive, Int.tmod_lt_of_pos _ positive⟩,
    Int.tmod_nonneg _, fun backward => ?_⟩
  have mirrored := Int.tmod_nonneg (billion : Int) (Int.neg_nonneg.mpr backward)
  rw [Int.neg_tmod] at mirrored
  exact Int.neg_nonneg.mp mirrored

theorem isSome_add? : (start.add? span).isSome = true ↔ Representable (start.target span) := by
  have bound := start.fraction
  have range := start.inRange
  obtain ⟨whole, small, onward, back⟩ := parts_of_span span
  rw [add?]
  generalize span.nanos.tdiv billion = seconds at *
  generalize span.nanos.tmod billion = part at *
  split
  next plain =>
    rw [isSome_shift?, target, if_neg (by omega), Int.natCast_zero, Int.sub_zero]
  next leap =>
    split
    next onward =>
      have forward : -(billion : Int) < span.nanos := by
        simp only [billion] at *
        omega
      rw [isSome_shift?, target, if_pos ⟨Nat.le_of_not_lt leap, forward⟩, Representable, Representable]
      omega
    next remains =>
      split
      next back =>
        have backward : ¬ -(billion : Int) < span.nanos := by
          simp only [billion] at *
          omega
        rw [isSome_shift?, target, if_neg (mt And.right backward), Representable, Representable]
        simp only [billion]
        omega
      next stays =>
        have within : -(billion : Int) < span.nanos := by
          simp only [billion] at *
          omega
        have minutes : earliest = -8334601228800 := by decide
        rw [isSome_ofParts?, target, if_pos ⟨Nat.le_of_not_lt leap, within⟩, Representable]
        simp only [billion, minutes] at *
        omega

theorem add?_eq_none_iff : start.add? span = none ↔ ¬ Representable (start.target span) := by
  rw [← isSome_add?, Bool.not_eq_true, Option.isSome_eq_false_iff, Option.isNone_iff_eq_none]

/-- A span of at most a day leads to no instant behind the last one, if it starts a day before that. -/
theorem representable_target (forward : 0 ≤ span.nanos) (short : span.nanos ≤ (secondsPerDay * billion : Nat))
    (early : start.seconds + secondsPerDay ≤ latest) : Representable (start.target span) := by
  have bound := start.fraction
  have range := start.inRange
  by_cases leap : billion ≤ start.nanos ∧ -(billion : Int) < span.nanos
  · rw [target, if_pos leap]
    simp only [Representable, billion, secondsPerDay] at *
    omega
  · rw [target, if_neg leap]
    simp only [Representable, billion, secondsPerDay] at *
    omega

end Instant

end Discovery.Time
