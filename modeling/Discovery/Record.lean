import Discovery.Category
import Discovery.Time.Instant
/-!
# Sightings and records

A sighting is one observation of a device or service: it was seen, or it has announced that it is gone. A
record is what is kept of it, with a deadline after which the entry is dropped unless it is sighted again.
Category, address and port identify an entry; the host name, the liveness flag and the deadline do not.
-/
namespace Discovery

open Time (Instant Span)

structure Sighting where
  category : Category
  /-- An IP address of a network service, a device path of a serial board. -/
  address : String
  /-- The service's port, zero for a serial board. -/
  port : UInt16
  hostName : String
  /-- False marks a deregistration. -/
  live : Bool
  deriving DecidableEq

structure Record extends Sighting where
  /-- The last instant at which the entry has not expired. -/
  expiry : Instant
  deriving DecidableEq

structure Key where
  category : Category
  address : String
  port : UInt16
  deriving DecidableEq, Repr

/-- A deadline would lie outside the representable instants. -/
inductive Overflow where
  | deadline
  deriving DecidableEq, Repr

def Overflow.message : Overflow → String
  | deadline => "`DateTime + TimeDelta` overflowed"

/-- The instant at which a window that starts now ends. -/
def deadline (now : Instant) (window : Span) : Except Overflow Instant :=
  match now.add? window with
  | some expiry => .ok expiry
  | none => .error .deadline

namespace Sighting

def key (sighting : Sighting) : Key := ⟨sighting.category, sighting.address, sighting.port⟩

/-- The name shown to people: the category, with the host name behind it if there is one. -/
def name (sighting : Sighting) : String :=
  if sighting.hostName.isEmpty then sighting.category.label
  else sighting.category.label ++ " (" ++ sighting.hostName ++ ")"

/-- The window of a sighting for which none is configured. -/
def defaultWindow : Span := .ofSeconds 120

/-- The record of a sighting made now, with the default window. -/
def toRecord (sighting : Sighting) (now : Instant) : Except Overflow Record :=
  return { sighting with expiry := ← deadline now defaultWindow }

end Sighting

namespace Record

def same (left right : Record) : Bool := left.key = right.key

theorem same_iff (left right : Record) : left.same right = true ↔ left.key = right.key := by
  simp [same]

/-- The deadline lies strictly before `now`. -/
def expiredAt (record : Record) (now : Instant) : Bool := record.expiry.before now

/-- Move the deadline to the end of a window that starts now. -/
def renew (record : Record) (now : Instant) (window : Span) : Except Overflow Record :=
  return { record with expiry := ← deadline now window }

end Record

end Discovery
