import Discovery.Service
/-!
# Maintenance

Entries that nobody asks about expire too: at regular intervals every category is cleaned up. The first pass is
due at once; passes that were missed are all made up for. A cancelled maintenance makes no further pass.
-/
namespace Discovery

structure Maintenance where
  /-- Milliseconds between two passes. -/
  interval : Nat
  /-- Milliseconds since the start. -/
  elapsed : Nat
  cancelled : Bool
  deriving DecidableEq, Repr

namespace Maintenance

/-- The longest interval in seconds, thirty years of 365 days. -/
def longestInterval : Nat := 30 * 365 * 86400

/-- Maintenance with a pass every so many seconds, at most one pass a second and at least one in thirty years. -/
def start (seconds : Nat) : Maintenance := ⟨min (max 1 seconds) longestInterval * 1000, 0, false⟩

/-- The number of passes that have been due by now. -/
def due (maintenance : Maintenance) : Nat := 1 + maintenance.elapsed / maintenance.interval

/-- Time goes on. The result is the number of passes that have become due. -/
def advance (maintenance : Maintenance) (millis : Nat) : Maintenance × Nat :=
  let later := { maintenance with elapsed := maintenance.elapsed + millis }
  (later, if maintenance.cancelled then 0 else later.due - maintenance.due)

def cancel (maintenance : Maintenance) : Maintenance := { maintenance with cancelled := true }

end Maintenance

namespace Service

variable {δ : Type} [Device δ]

/-- Make a number of passes. The result is the number of those that the worker has made. -/
def cleanUps (service : Service δ) (setting : Setting) : Nat → Turn δ Nat
  | 0 => service.stay 0
  | passes + 1 =>
    let first := service.tell setting .cleanUpAll
    let others := first.service.cleanUps setting passes
    { others with
      result := others.result + (match first.result with
        | .ok () => 1
        | .error _ => 0)
      mdns := first.mdns ++ others.mdns
      activity := first.activity ++ others.activity }

/-- Time goes on by so many milliseconds, up to the given setting, and the passes that have become due are made. -/
def maintain (service : Service δ) (maintenance : Maintenance) (setting : Setting) (millis : Nat) :
    Maintenance × Turn δ Nat :=
  let (later, due) := maintenance.advance millis
  (later, service.cleanUps setting due)

end Service

end Discovery
