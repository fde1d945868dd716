import Discovery.Decimal.Digits
import Discovery.Time.Instant
/-!
# Written instants

The text of an instant in UTC: date, `T`, time of day, a fraction of 0, 3, 6 or 9 digits, whichever is the
least that is exact, and `Z`. Years from 0 to 9999 have four digits and no sign; other years have a sign and
at least four digits. A leap second is written as second 60.
-/
namespace Discovery.Time

open Decimal (padded digitsAtLeast)

def writeYear (year : Int) : List Char :=
  if 0 ≤ year ∧ year ≤ 9999 then padded 4 year.toNat
  else (if year < 0 then '-' else '+') :: digitsAtLeast 4 year.natAbs

def Date.write (date : Date) : List Char :=
  writeYear date.year ++ '-' :: padded 2 date.month ++ '-' :: padded 2 date.day

/-- A fraction of a second from its nanoseconds. -/
def writeFraction (nanos : Nat) : List Char :=
  if nanos = 0 then []
  else if nanos % 1000000 = 0 then '.' :: padded 3 (nanos / 1000000)
  else if nanos % 1000 = 0 then '.' :: padded 6 (nanos / 1000)
  else '.' :: padded 9 nanos

/-- A time of day; `leap` seconds are written one up. -/
def writeTimeOfDay (second : Nat) (leap : Bool) : List Char :=
  padded 2 (second / 3600) ++ ':' :: padded 2 (second / 60 % 60) ++ ':' ::
    padded 2 (second % 60 + if leap then 1 else 0)

namespace Instant

def dayNumber (instant : Instant) : Int := instant.seconds / secondsPerDay

def secondOfDay (instant : Instant) : Nat := (instant.seconds % secondsPerDay).toNat

def write (instant : Instant) : List Char :=
  (Date.ofDayNumber instant.dayNumber).write ++ 'T' ::
    writeTimeOfDay instant.secondOfDay (billion ≤ instant.nanos) ++
    writeFraction (instant.nanos % billion) ++ ['Z']

def toText (instant : Instant) : String := String.ofList instant.write

end Instant

end Discovery.Time
