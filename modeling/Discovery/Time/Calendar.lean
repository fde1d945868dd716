/-!
# Calendar

Dates of the proleptic Gregorian calendar and their day numbers, counted from 1970-01-01. A year starts
after 365 days for every earlier year and one more for every earlier leap year. The year of a day number is
guessed from the mean length of a year, which is off by at most one, and then corrected; the day within
the year is split along the lengths of the months.
-/
namespace Discovery.Time

structure Date where
  year : Int
  month : Nat
  day : Nat
  deriving DecidableEq, Repr, Inhabited

def isLeapYear (year : Int) : Bool := year % 4 == 0 && (year % 100 != 0 || year % 400 == 0)

def monthLengths (leap : Bool) : List Nat :=
  [31, if leap then 29 else 28, 31, 30, 31, 30, 31, 31, 30, 31, 30, 31]

def monthLength (year : Int) (month : Nat) : Nat := (monthLengths (isLeapYear year)).getD (month - 1) 0

/-- The date exists. -/
def Date.valid (date : Date) : Bool :=
  1 ≤ date.month && date.month ≤ 12 && 1 ≤ date.day && date.day ≤ monthLength date.year date.month

/-- Days from the first day of year one to the first day of a year. -/
def daysBeforeYear (year : Int) : Int :=
  365 * (year - 1) + (year - 1) / 4 - (year - 1) / 100 + (year - 1) / 400

theorem daysBeforeYear_succ (year : Int) :
    daysBeforeYear (year + 1) = daysBeforeYear year + (if isLeapYear year then 366 else 365) := by
  cases leap : isLeapYear year <;>
    simp only [isLeapYear, Bool.and_eq_false_iff, Bool.and_eq_true, Bool.or_eq_false_iff, Bool.or_eq_true,
      bne_iff_ne, bne_eq_false_iff_eq, beq_iff_eq, beq_eq_false_iff_ne, ne_eq] at leap <;>
    simp only [daysBeforeYear, Bool.false_eq_true, if_true, if_false] <;> omega

def daysBeforeMonth (year : Int) (month : Nat) : Nat :=
  ((monthLengths (isLeapYear year)).take (month - 1)).foldl (· + ·) 0

/-- Days from the first day of year one to 1970-01-01. -/
def epochDays : Int := daysBeforeYear 1970

/-- The day number of a date. -/
def Date.dayNumber (date : Date) : Int :=
  daysBeforeYear date.year + daysBeforeMonth date.year date.month + (date.day - 1 : Nat) - epochDays

/-- The year in which a day falls, counted from the first day of year one. -/
def yearOfDay (day : Int) : Int :=
  let guess := day * 400 / 146097 + 1
  if day < daysBeforeYear guess then guess - 1
  else if daysBeforeYear (guess + 1) ≤ day then guess + 1
  else guess

theorem yearOfDay_bounds (day : Int) :
    daysBeforeYear (yearOfDay day) ≤ day ∧ day < daysBeforeYear (yearOfDay day + 1) := by
  simp only [yearOfDay]
  split
  next early => simp only [daysBeforeYear] at *; omega
  next notEarly =>
    split
    next late => simp only [daysBeforeYear] at *; omega
    next notLate => omega

/-- Split a day of the year along month lengths, starting with month number `month`. -/
def splitMonths : List Nat → Nat → Nat → Nat × Nat
  | [], month, rest => (month, rest)
  | length :: lengths, month, rest =>
    if rest < length then (month, rest) else splitMonths lengths (month + 1) (rest - length)

/-- The date of a day number. -/
def Date.ofDayNumber (number : Int) : Date :=
  let day := number + epochDays
  let year := yearOfDay day
  let (month, rest) := splitMonths (monthLengths (isLeapYear year)) 1 (day - daysBeforeYear year).toNat
  ⟨year, month, rest + 1⟩

end Discovery.Time
