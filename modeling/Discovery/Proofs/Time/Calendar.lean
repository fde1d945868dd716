import Discovery.Time.Instant
import Mathlib.Algebra.GroupWithZero.Nat
/-!
# Dates and day numbers

Every day number has a date, and that date has this day number. The year is the one between whose first day and the
next year's first day the day falls, and within the year the day is split along the lengths of the months.
-/
namespace Discovery.Time

/-! ## Years -/

theorem daysBeforeYear_le {year later : Int} (order : year ≤ later) : daysBeforeYear year ≤ daysBeforeYear later := by
  simp only [daysBeforeYear]
  omega

/-- A day between the first days of two years falls into one of the years between them. -/
theorem yearOfDay_mem {least beyond day : Int} (since : daysBeforeYear least ≤ day)
    (before : day < daysBeforeYear beyond) : least ≤ yearOfDay day ∧ yearOfDay day < beyond := by
  obtain ⟨starts, ends⟩ := yearOfDay_bounds day
  constructor
  · refine Int.not_lt.mp fun early => ?_
    have := daysBeforeYear_le (Int.add_one_le_of_lt early)
    omega
  · refine Int.not_le.mp fun late => ?_
    have := daysBeforeYear_le late
    omega

/-! ## Months -/

theorem length_monthLengths (leap : Bool) : (monthLengths leap).length = 12 := rfl

theorem sum_monthLengths (leap : Bool) : (monthLengths leap).sum = if leap then 366 else 365 := by
  cases leap <;> rfl

theorem le_of_mem_monthLengths {leap : Bool} {length : Nat} (member : length ∈ monthLengths leap) : length ≤ 31 := by
  cases leap <;> revert length <;> decide

/-- The month and the day that a day is split into: so many days are before the month, and the day falls into it. -/
theorem splitMonths_spec (lengths : List Nat) (month rest : Nat) (within : rest < lengths.sum) :
    ∃ before, (splitMonths lengths month rest).1 = month + before ∧ before < lengths.length ∧
      (lengths.take before).sum + (splitMonths lengths month rest).2 = rest ∧
      (splitMonths lengths month rest).2 < lengths.getD before 0 := by
  induction lengths generalizing month rest with
  | nil => exact absurd within (Nat.not_lt_zero rest)
  | cons length lengths ih =>
    rw [splitMonths]
    split
    next fits => exact ⟨0, rfl, Nat.zero_lt_succ _, by simp, by simpa using fits⟩
    next passes =>
      rw [List.sum_cons] at within
      obtain ⟨before, named, short, together, falls⟩ := ih (month + 1) (rest - length) (by omega)
      refine ⟨before + 1, by omega, Nat.succ_lt_succ short, ?_, by simpa using falls⟩
      rw [List.take_succ_cons, List.sum_cons]
      omega

/-! ## Dates -/

theorem daysBeforeMonth_succ (year : Int) (before : Nat) :
    daysBeforeMonth year (1 + before) = ((monthLengths (isLeapYear year)).take before).sum := by
  rw [daysBeforeMonth, Nat.add_sub_cancel_left, List.sum_eq_foldl]

/-- The day of the year of a day number, counted from zero. -/
def dayOfYear (number : Int) : Nat :=
  (number + epochDays - daysBeforeYear (yearOfDay (number + epochDays))).toNat

theorem dayOfYear_lt (number : Int) :
    dayOfYear number < (monthLengths (isLeapYear (yearOfDay (number + epochDays)))).sum := by
  obtain ⟨starts, ends⟩ := yearOfDay_bounds (number + epochDays)
  rw [daysBeforeYear_succ] at ends
  rw [sum_monthLengths, dayOfYear]
  generalize isLeapYear _ = leap at *
  cases leap <;> simp only [Bool.false_eq_true, if_true, if_false] at * <;> omega

namespace Date

/-- The date of a day number is the day of its year, split along the months. -/
theorem ofDayNumber_spec (number : Int) : ∃ before, (ofDayNumber number).month = 1 + before ∧ before < 12 ∧
    (ofDayNumber number).year = yearOfDay (number + epochDays) ∧
    daysBeforeMonth (ofDayNumber number).year (1 + before) + ((ofDayNumber number).day - 1) = dayOfYear number ∧
    1 ≤ (ofDayNumber number).day ∧ (ofDayNumber number).day ≤ monthLength (ofDayNumber number).year (1 + before) := by
  obtain ⟨before, month, short, together, falls⟩ := splitMonths_spec _ 1 _ (dayOfYear_lt number)
  refine ⟨before, month, short, rfl, ?_, ?_, ?_⟩
  · rw [daysBeforeMonth_succ]
    exact together
  · exact Nat.le_add_left 1 _
  · rw [monthLength, Nat.add_sub_cancel_left]
    exact falls

theorem valid_ofDayNumber (number : Int) : (ofDayNumber number).valid = true := by
  obtain ⟨before, month, short, -, -, least, greatest⟩ := ofDayNumber_spec number
  simp only [valid, month, Bool.and_eq_true, decide_eq_true_eq]
  omega

theorem dayNumber_ofDayNumber (number : Int) : (ofDayNumber number).dayNumber = number := by
  obtain ⟨before, month, -, year, together, -, -⟩ := ofDayNumber_spec number
  have starts := (yearOfDay_bounds (number + epochDays)).1
  rw [dayNumber, month]
  rw [dayOfYear, ← year] at together
  rw [← year] at starts
  omega

/-- A valid date has a day that two digits hold. -/
theorem day_le_of_valid {date : Date} (valid : date.valid = true) : 1 ≤ date.day ∧ date.day ≤ 31 := by
  simp only [Date.valid, Bool.and_eq_true, decide_eq_true_eq] at valid
  obtain ⟨⟨⟨least, greatest⟩, first⟩, last⟩ := valid
  have listed : date.month - 1 < (monthLengths (isLeapYear date.year)).length := by
    rw [length_monthLengths]
    omega
  rw [monthLength, List.getD_eq_getElem?_getD, List.getElem?_eq_getElem listed, Option.getD_some] at last
  exact ⟨first, Nat.le_trans last (le_of_mem_monthLengths (List.getElem_mem listed))⟩

end Date

end Discovery.Time
