/-!
# Broadcast channels

Every subscriber receives every message sent after it subscribed, in sending order. The channel keeps only its
newest messages: a subscriber that has fallen further behind is told once how many messages it has lost and goes
on with the oldest that is kept. Messages are numbered from zero in sending order, and a subscriber is the number
of the next message it is to receive.
-/
namespace Discovery

structure Broadcast (α : Type) where
  capacity : Nat
  /-- How many messages have been sent so far. -/
  sent : Nat
  /-- The newest messages, oldest first, at most `capacity` of them. -/
  kept : List α
  deriving DecidableEq, Repr

/-- What a subscriber receives. -/
inductive Reception (α : Type) where
  | message (message : α)
  /-- So many messages have been lost. -/
  | lagged (lost : Nat)
  deriving DecidableEq, Repr

namespace Broadcast

variable {α : Type}

def empty (capacity : Nat) : Broadcast α := ⟨capacity, 0, []⟩

/-- The newest entries of a list. -/
def newest (count : Nat) (messages : List α) : List α := messages.drop (messages.length - count)

def send (channel : Broadcast α) (message : α) : Broadcast α :=
  { channel with sent := channel.sent + 1, kept := newest channel.capacity (channel.kept ++ [message]) }

def sendAll (channel : Broadcast α) (messages : List α) : Broadcast α := messages.foldl send channel

/-- The number of the oldest message that is kept. -/
def oldest (channel : Broadcast α) : Nat := channel.sent - channel.kept.length

/-- The position of a new subscriber. -/
def subscribe (channel : Broadcast α) : Nat := channel.sent

/-- What is there to receive from a position on. After it the subscriber's position is `sent`. -/
def receive (channel : Broadcast α) (position : Nat) : List (Reception α) :=
  let waiting := (channel.kept.drop (position - channel.oldest)).map Reception.message
  if position < channel.oldest then .lagged (channel.oldest - position) :: waiting else waiting

end Broadcast

end Discovery
