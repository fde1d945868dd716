import Discovery.Broadcast
import Mathlib.Algebra.GroupWithZero.Nat
import Mathlib.Data.List.Basic
/-!
# What is received of what has been sent

The channel counts what is sent on it and keeps the newest of it, and that is all that a subscriber can tell of what was
sent. A subscriber that is not too far behind receives all that it has not received yet. One that is further behind learns
how many messages it has lost, and receives the newest.
-/
namespace Discovery

variable {α : Type}

namespace Reception

def message? : Reception α → Option α
  | message sent => some sent
  | lagged _ => none

/-- How many messages this reports as lost. -/
def lost : Reception α → Nat
  | message _ => 0
  | lagged lost => lost

theorem message?_comp_message : message? ∘ message = (some : α → Option α) := rfl

end Reception

namespace Broadcast

theorem length_newest (count : Nat) (messages : List α) : (newest count messages).length = min count messages.length := by
  rw [newest, List.length_drop]
  omega

/-- What is no longer among the newest does not come back. -/
theorem newest_concat (count : Nat) (messages : List α) (message : α) :
    newest count (newest count messages ++ [message]) = newest count (messages ++ [message]) := by
  have inside : messages.length - count ≤ messages.length := Nat.sub_le _ _
  have early : newest count messages ++ [message] = (messages ++ [message]).drop (messages.length - count) := by
    rw [newest, List.drop_append_of_le_length inside]
  rw [early, newest, newest, List.drop_drop, List.length_drop, List.length_append, List.length_singleton]
  congr 1
  omega

/-- These are the messages that have been sent on the channel. -/
structure Carries (channel : Broadcast α) (messages : List α) : Prop where
  sent : channel.sent = messages.length
  kept : channel.kept = newest channel.capacity messages

theorem carries_empty (capacity : Nat) : (empty capacity).Carries ([] : List α) :=
  ⟨rfl, List.drop_nil.symm⟩

variable {channel : Broadcast α} {messages : List α}

@[simp] theorem capacity_sendAll (channel : Broadcast α) (messages : List α) :
    (channel.sendAll messages).capacity = channel.capacity := by
  induction messages generalizing channel with
  | nil => rfl
  | cons message rest ih => exact ih (channel.send message)

theorem Carries.send (carries : channel.Carries messages) (message : α) :
    (channel.send message).Carries (messages ++ [message]) := by
  constructor
  · simp [Broadcast.send, carries.sent]
  · simp only [Broadcast.send, carries.kept, newest_concat]

theorem Carries.sendAll (carries : channel.Carries messages) (more : List α) :
    (channel.sendAll more).Carries (messages ++ more) := by
  induction more generalizing channel messages with
  | nil => simpa [Broadcast.sendAll] using carries
  | cons message rest ih =>
    have next := ih (carries.send message)
    rwa [← List.append_cons] at next

theorem Carries.oldest (carries : channel.Carries messages) : channel.oldest = messages.length - channel.capacity := by
  rw [Broadcast.oldest, carries.sent, carries.kept, length_newest]
  omega

/-! ## All at once -/

/-- What there is to receive of new messages for a subscriber that has received everything before them. -/
def fresh (capacity : Nat) (messages : List α) : List (Reception α) :=
  if messages.length ≤ capacity then messages.map .message
  else .lagged (messages.length - capacity) :: (newest capacity messages).map .message

theorem Carries.receive_append {unread : List α} (carries : channel.Carries (messages ++ unread)) :
    channel.receive messages.length = fresh channel.capacity unread := by
  have oldest := carries.oldest
  rw [List.length_append] at oldest
  -- Whether some of the unread messages are gone or not, what is kept of them are the newest.
  have kept : channel.kept.drop (messages.length - channel.oldest) = newest channel.capacity unread := by
    rw [carries.kept, newest, newest, List.drop_drop, List.length_append, oldest, List.drop_append,
      List.drop_eq_nil_of_le (by omega), List.nil_append]
    congr 1
    omega
  rw [receive, kept, fresh]
  by_cases fits : unread.length ≤ channel.capacity
  · have timely : ¬ messages.length < channel.oldest := by omega
    have all : newest channel.capacity unread = unread := by
      rw [newest, Nat.sub_eq_zero_of_le fits, List.drop_zero]
    rw [if_neg timely, if_pos fits, all]
  · have late : messages.length < channel.oldest := by omega
    have lost : channel.oldest - messages.length = unread.length - channel.capacity := by omega
    rw [if_pos late, if_neg fits, lost]

/-- A subscriber that has received everything has nothing to receive. -/
theorem Carries.receive_sent (carries : channel.Carries messages) : channel.receive channel.sent = [] := by
  have whole : channel.Carries (messages ++ []) := by rwa [List.append_nil]
  rw [carries.sent, whole.receive_append]
  rfl

theorem messages_fresh (capacity : Nat) (messages : List α) :
    (fresh capacity messages).filterMap Reception.message? = newest capacity messages := by
  unfold fresh
  split
  next fits =>
    rw [List.filterMap_map, Reception.message?_comp_message, List.filterMap_some, newest, Nat.sub_eq_zero_of_le fits,
      List.drop_zero]
  next => rw [List.filterMap_cons_none rfl, List.filterMap_map, Reception.message?_comp_message, List.filterMap_some]

/-- Every message is received or reported as lost. -/
theorem length_fresh (capacity : Nat) (messages : List α) :
    ((fresh capacity messages).filterMap Reception.message?).length + ((fresh capacity messages).map Reception.lost).sum =
      messages.length := by
  have none (messages : List α) : (messages.map (Reception.lost ∘ Reception.message)).sum = 0 := by
    simp [Function.comp_def, Reception.lost]
  rw [messages_fresh, length_newest, fresh]
  split
  next fits =>
    rw [List.map_map, none]
    omega
  next =>
    rw [List.map_cons, List.sum_cons, List.map_map, none, Reception.lost]
    omega

/-- What a subscriber receives, from its position on, that takes all there is after each batch of messages. -/
def drains (channel : Broadcast α) (position : Nat) : List (List α) → List (List (Reception α))
  | [] => []
  | batch :: rest =>
    let sent := channel.sendAll batch
    sent.receive position :: sent.drains sent.sent rest

theorem Carries.drains_eq (carries : channel.Carries messages) (batches : List (List α)) :
    channel.drains messages.length batches = batches.map (fresh channel.capacity) := by
  induction batches generalizing channel messages with
  | nil => rfl
  | cons batch rest ih =>
    have next := carries.sendAll batch
    have later := ih next
    rw [drains, next.receive_append, next.sent, later, capacity_sendAll, List.map_cons]

/-! ## One at a time -/

/-- What a subscriber receives next, with its position after that. -/
def next? (channel : Broadcast α) (position : Nat) : Option (Reception α × Nat) :=
  if position < channel.oldest then some (.lagged (channel.oldest - position), channel.oldest)
  else channel.kept[position - channel.oldest]?.map fun message => (.message message, position + 1)

/-- Receiving one at a time comes to the same as receiving all at once. -/
theorem receive_of_next? {position later : Nat} {reception : Reception α}
    (next : channel.next? position = some (reception, later)) :
    channel.receive position = reception :: channel.receive later := by
  unfold next? at next
  split at next
  next late =>
    cases next
    have first : position - channel.oldest = 0 := by omega
    simp only [receive, if_pos late, first, Nat.sub_self, Nat.lt_irrefl, if_false]
  next timely =>
    obtain ⟨message, found, same⟩ := Option.map_eq_some_iff.mp next
    cases same
    obtain ⟨inside, rfl⟩ := List.getElem?_eq_some_iff.mp found
    have still : ¬ position + 1 < channel.oldest := by omega
    have place : position + 1 - channel.oldest = position - channel.oldest + 1 := by omega
    simp only [receive, if_neg timely, if_neg still, place]
    rw [List.drop_eq_getElem_cons inside, List.map_cons]

theorem receive_of_next?_none {position : Nat} (nothing : channel.next? position = none) :
    channel.receive position = [] := by
  unfold next? at nothing
  split at nothing
  · cases nothing
  next timely =>
    have behind : channel.kept.length ≤ position - channel.oldest := by simpa using nothing
    simp only [receive, if_neg timely, List.drop_eq_nil_of_le behind, List.map_nil]

/-- A subscriber that is further behind than the channel reaches is told of all that the channel no longer has. -/
theorem Carries.next?_eq (carries : channel.Carries messages) (position : Nat) :
    channel.next? position =
      if position + channel.capacity < messages.length then
        some (.lagged (messages.length - channel.capacity - position), messages.length - channel.capacity)
      else messages[position]?.map fun message => (.message message, position + 1) := by
  rw [next?, carries.oldest]
  by_cases late : position + channel.capacity < messages.length
  · rw [if_pos late, if_pos (by omega)]
  · have place : messages.length - channel.capacity + (position - (messages.length - channel.capacity)) = position := by
      omega
    rw [if_neg late, if_neg (by omega), carries.kept, newest, List.getElem?_drop, place]

end Broadcast

end Discovery
