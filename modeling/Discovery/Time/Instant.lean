import Discovery.Time.Calendar
/-!
# Instants

An instant counts seconds since 1970-01-01T00:00:00Z and nanoseconds within the second. The last second
of a minute may be extended by a leap second, written as nanoseconds from one billion up. Years run from
-262143 to 262142; adding a span that leaves them fails.
-/
namespace Discovery.Time

def billion : Nat := 1000000000

def secondsPerDay : Nat := 86400

def leastYear : Int := -262143

def greatestYear : Int := 262142

/-- The first representable second. -/
def earliest : Int := (Date.mk leastYear 1 1).dayNumber * secondsPerDay

/-- The last representable second. -/
def latest : Int := (Date.mk (greatestYear + 1) 1 1).dayNumber * secondsPerDay - 1

structure Instant where
  seconds : Int
  nanos : Nat
  inRange : earliest ≤ seconds ∧ seconds ≤ latest
  fraction : nanos < billion ∨ (nanos < 2 * billion ∧ seconds % 60 = 59)
  deriving DecidableEq

/-- A length of time, possibly negative, in nanoseconds. -/
structure Span where
  nanos : Int
  deriving DecidableEq, Repr, Inhabited

namespace Span

def ofMillis (millis : Int) : Span := ⟨millis * 1000000⟩

def ofSeconds (seconds : Int) : Span := ⟨seconds * billion⟩

/-- Whole milliseconds, rounded toward zero. -/
def millis (span : Span) : Int := span.nanos.tdiv 1000000

end Span

namespace Instant

/-- The instant with these parts, if it is representable. -/
def ofParts? (seconds : Int) (nanos : Nat) : Option Instant :=
  if inRange : earliest ≤ seconds ∧ seconds ≤ latest then
    if fraction : nanos < billion ∨ (nanos < 2 * billion ∧ seconds % 60 = 59) then
      some ⟨seconds, nanos, inRange, fraction⟩
    else none
  else none

theorem ofParts?_self (instant : Instant) : ofParts? instant.seconds instant.nanos = some instant := by
  simp [ofParts?, instant.inRange, instant.fraction]

def epoch : Instant := ⟨0, 0, by decide, by decide⟩

/-- The instant a number of milliseconds after the epoch. -/
def ofMillis? (millis : Int) : Option Instant :=
  ofParts? (millis / 1000) ((millis % 1000).toNat * 1000000)

/-- Order in time. -/
def before (left right : Instant) : Bool :=
  left.seconds < right.seconds || (left.seconds == right.seconds && left.nanos < right.nanos)

/-- The sum without regard to leap seconds. -/
def shift? (seconds nanos : Int) (span : Span) : Option Instant :=
  let total := seconds * billion + nanos + span.nanos
  ofParts? (total / billion) (total % billion).toNat

/-- A span added to an instant, nothing if the sum is not representable. A leap second is left only by a
span that leads out of it, and does not count when time moves on from it. -/
def add? (instant : Instant) (span : Span) : Option Instant :=
  let whole := span.nanos.tdiv billion
  let part := span.nanos.tmod billion
  if instant.nanos < billion then shift? instant.seconds instant.nanos span
  else if 0 < whole ∨ (0 < part ∧ 2 * billion ≤ instant.nanos + part) then
    shift? instant.seconds (instant.nanos - billion) span
  else if whole < 0 then shift? (instant.seconds + 1) (instant.nanos - billion) span
  else ofParts? instant.seconds (instant.nanos + part).toNat

end Instant

end Discovery.Time
