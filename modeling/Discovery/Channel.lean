/-!
# Bounded channels

A first-in first-out queue with a fixed number of slots between senders and one receiver. Sending never waits:
a message that finds no free slot, or no receiver, is handed back as an error. When the receiver goes away,
what is still waiting goes with it.
-/
namespace Discovery

structure Channel (α : Type) where
  capacity : Nat
  /-- The messages not yet received, oldest first. -/
  waiting : List α
  /-- The receiver is still there. -/
  receiving : Bool
  deriving DecidableEq, Repr

inductive SendError where
  | full
  | closed
  deriving DecidableEq, Repr

def SendError.message : SendError → String
  | full => "no available capacity"
  | closed => "channel closed"

namespace Channel

variable {α : Type}

def empty (capacity : Nat) : Channel α := ⟨capacity, [], true⟩

def send (channel : Channel α) (message : α) : Except SendError (Channel α) :=
  if !channel.receiving then .error .closed
  else if channel.capacity ≤ channel.waiting.length then .error .full
  else .ok { channel with waiting := channel.waiting ++ [message] }

/-- A message is taken exactly if there is a receiver and a free slot, and then it waits behind all others. -/
theorem send_eq_ok_iff {channel sent : Channel α} {message : α} :
    channel.send message = .ok sent ↔
      (channel.receiving = true ∧ channel.waiting.length < channel.capacity) ∧
        sent = { channel with waiting := channel.waiting ++ [message] } := by
  unfold send
  split
  next closed => simp_all
  next listening =>
    have receiving : channel.receiving = true := by simpa using listening
    split
    next full => simp [Nat.not_lt.mpr full]
    next room => simp [receiving, Nat.lt_of_not_le room, eq_comm]

/-- Take the oldest message. -/
def receive? (channel : Channel α) : Option (α × Channel α) :=
  match channel.waiting with
  | [] => none
  | message :: rest => some (message, { channel with waiting := rest })

/-- The receiver goes away. -/
def close (channel : Channel α) : Channel α := { channel with waiting := [], receiving := false }

/-- Send messages one after the other; those that find no slot are lost and reported. -/
def sendAll (channel : Channel α) : List α → Channel α × List SendError
  | [] => (channel, [])
  | message :: rest =>
    match channel.send message with
    | .ok sent => sent.sendAll rest
    | .error error =>
      let (final, errors) := channel.sendAll rest
      (final, error :: errors)

end Channel

end Discovery
