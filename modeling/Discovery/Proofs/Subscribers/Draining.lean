import Discovery.Proofs.Clients.SerialScan
import Discovery.Proofs.Service.Operations
import Discovery.Proofs.Subscribers.Reception
/-!
# Subscribers that come back in time

A subscriber that takes all there is after each step of a run loses a change only in a step in which more are announced than
the channel keeps, and then it knows how many. As long as it loses none, it knows what is in every list.
-/
namespace Discovery

open Mdns (Wired WiredEvent)
open Time (Span)

/-- The list of a category that the last change of it carries, empty before the first. -/
def replay (changes : List Change) (category : Category) : List Record :=
  ((changes.filter (·.category = category)).map (·.services)).getLast?.getD []

section
variable {ι δ : Type} [DecidableEq ι] [Device δ]
variable {agent : ι} {window : Span} {dispatcher : Dispatcher δ} {requestSlots : Nat} {responder : Mdns.Responder}

/-- Whatever clients, scans and the browser do, what has been announced tells what is listed. -/
theorem members_replay_announced {trace : List (WiredEvent ι)} {wired : Wired ι δ}
    (runs : Wired.Runs agent (.start window dispatcher requestSlots responder) trace wired) (category : Category) :
    members (replay (Clients.announced (Wired.systemEvents agent trace)) category) =
      members (wired.system.catalogue.list category) := by
  have serves := Clients.serves_runs runs.system
  rw [serves.catalogue, serves.changes]
  exact Catalogue.members_latest_run window _ category

omit [DecidableEq ι] in
theorem announced_flatten (agent : ι) (steps : List (List (WiredEvent ι))) :
    Clients.announced (Wired.systemEvents agent steps.flatten) =
      (steps.map fun step => Clients.announced (Wired.systemEvents agent step)).flatten := by
  induction steps with
  | nil => rfl
  | cons step rest ih =>
    rw [List.flatten_cons, Wired.systemEvents_append, Clients.announced_append, ih, List.map_cons, List.flatten_cons]

end

namespace Broadcast

variable {α : Type}

theorem messages_flatten_fresh (capacity : Nat) (batches : List (List α)) :
    (batches.map (fresh capacity)).flatten.filterMap Reception.message? = (batches.map (newest capacity)).flatten := by
  rw [List.filterMap_flatten, List.map_map]
  congr 2
  funext batch
  exact messages_fresh capacity batch

theorem length_flatten_fresh (capacity : Nat) (batches : List (List α)) :
    ((batches.map (fresh capacity)).flatten.filterMap Reception.message?).length +
      ((batches.map (fresh capacity)).flatten.map Reception.lost).sum = batches.flatten.length := by
  induction batches with
  | nil => rfl
  | cons batch rest ih =>
    have first := length_fresh capacity batch
    simp only [List.map_cons, List.flatten_cons, List.filterMap_append, List.map_append, List.length_append, List.sum_append]
    omega

theorem sublist_flatten_newest (capacity : Nat) (batches : List (List α)) :
    (batches.map (newest capacity)).flatten.Sublist batches.flatten := by
  induction batches with
  | nil => exact List.Sublist.slnil
  | cons batch rest ih => exact (List.drop_sublist _ batch).append ih

/-- Where no loss is reported, nothing is lost. -/
theorem newest_of_unlagged {capacity : Nat} {batches : List (List α)}
    (unlagged : ∀ lost, .lagged lost ∉ (batches.map (fresh capacity)).flatten) :
    (batches.map (newest capacity)).flatten = batches.flatten := by
  have whole : ∀ batch ∈ batches, newest capacity batch = batch := by
    intro batch member
    by_cases fits : batch.length ≤ capacity
    · rw [newest, Nat.sub_eq_zero_of_le fits, List.drop_zero]
    · have reported : .lagged (batch.length - capacity) ∈ fresh capacity batch := by
        rw [fresh, if_neg fits]
        exact List.mem_cons_self
      exact absurd (List.mem_flatten.mpr ⟨_, List.mem_map_of_mem member, reported⟩) (unlagged _)
  rw [List.map_congr_left whole, List.map_id']

end Broadcast

section
variable {ι δ : Type} [DecidableEq ι] [Device δ]
variable {agent : ι} {window : Span} {dispatcher : Dispatcher δ} {requestSlots : Nat} {responder : Mdns.Responder}

/-- A subscriber that is there from the start takes all there is after each step, as it can do whenever the service is idle.
Of the changes that are announced in a step it receives all if the channel keeps so many, and else a report of how many are
lost and then those that are kept. So what it receives and what is reported as lost add up to what is announced, it receives
nothing twice or out of order, and if nothing is ever reported as lost, the lists that it received last have the entries and
the host names, in the same order, of the stores. -/
theorem drained_subscriber_accounts_for_changes {steps : List (List (WiredEvent ι))} {wired : Wired ι δ}
    (runs : Wired.Runs agent (.start window dispatcher requestSlots responder) steps.flatten wired) :
    let announced := steps.map fun step => Clients.announced (Wired.systemEvents agent step)
    let received := (Broadcast.empty Service.changeSlots).drains 0 announced
    let messages := received.flatten.filterMap Reception.message?
    received = announced.map (fun changes =>
      if changes.length ≤ 64 then changes.map .message
      else .lagged (changes.length - 64) :: (changes.drop (changes.length - 64)).map .message) ∧
    messages.length + (received.flatten.map Reception.lost).sum = announced.flatten.length ∧
    messages.Sublist announced.flatten ∧
    ((∀ lost, .lagged lost ∉ received.flatten) → ∀ category,
      members (replay messages category) = members (wired.system.catalogue.list category)) := by
  intro announced received messages
  have each : received = announced.map (Broadcast.fresh Service.changeSlots) :=
    (Broadcast.carries_empty Service.changeSlots).drains_eq announced
  have kept : messages = (announced.map (Broadcast.newest Service.changeSlots)).flatten := by
    simp only [messages, each, Broadcast.messages_flatten_fresh]
  refine ⟨each, ?_, ?_, fun unlagged category => ?_⟩
  · simp only [messages, each]
    exact Broadcast.length_flatten_fresh Service.changeSlots announced
  · rw [kept]
    exact Broadcast.sublist_flatten_newest Service.changeSlots announced
  · rw [each] at unlagged
    have all : messages = Clients.announced (Wired.systemEvents agent steps.flatten) := by
      rw [kept, Broadcast.newest_of_unlagged unlagged, announced_flatten]
    rw [all]
    exact members_replay_announced runs category

end

/-! ## A crowded host -/

section
variable {ι : Type} [DecidableEq ι] {agent client : ι}

theorem nodup_crowd : (Clients.crowd.map (·.key)).Nodup := by
  have boards : ((List.range 300).map fun number =>
      Key.mk .esp ("/dev/ttyUSB" ++ String.ofList (Decimal.digits number)) 0).Nodup := by
    refine List.nodup_range.map fun left right same => ?_
    -- Numbers are read back from their digits.
    have texts : String.ofList (Decimal.digits left) = String.ofList (Decimal.digits right) := by simpa using same
    rw [← Decimal.value_digits left, String.ofList_injective texts, Decimal.value_digits]
  simpa [Clients.crowd, Sighting.key, Function.comp_def] using boards

theorem categories_crowd : (Clients.crowd.take Worker.slots).map (·.category) = .pico :: List.replicate 255 .esp := by
  have all : Clients.crowd.map (·.category) = .pico :: List.replicate 300 .esp := by
    have boards : (List.range 300).map (fun _ => Category.esp) = List.replicate 300 .esp := by
      rw [List.map_const', List.length_range]
    rw [Clients.crowd, List.map_cons, List.map_map]
    exact congrArg _ boards
  rw [List.map_take, all]
  exact (List.take_succ_cons).trans (congrArg _ List.take_replicate)

/-- A client asks for a scan on the crowded host, and nothing else happens. Every board that the queue takes is announced. -/
theorem exists_crowd (different : client ≠ agent) (responder : Mdns.Responder) :
    let config : Json := .object [("type", .string "adalight")]
    let start : Wired ι Backend := .start (.ofSeconds 120) (.unused Backend.registry config) Service.requestSlots responder
    ∃ trace wired, Wired.Runs agent start trace wired ∧ Wired.Idle agent wired ∧
      (Clients.announced (Wired.systemEvents agent trace)).map (·.category) = .pico :: List.replicate 255 .esp ∧
      ∀ change ∈ Clients.announced (Wired.systemEvents agent trace), change.services ≠ [] := by
  intro config start
  have valid : (Backend.registry.construct config).result = .ok (.adalight ⟨.default, none⟩, []) := by rfl
  have fits : (Moment.now ⟨.epoch, .readable []⟩ |>.add? (.ofSeconds 120)).isSome = true := by decide +kernel
  have found := Clients.finds_crowdedHost none
  have apart : ((Clients.crowd.take Worker.slots).map (·.key)).Nodup := by
    rw [List.map_take]
    exact nodup_crowd.sublist (List.take_sublist _ _)
  have distant (text : String) : (Net.Interfaces.readable []).isLocal text = false := by
    unfold Net.Interfaces.isLocal
    cases Net.announced? text <;> rfl
  rw [← found] at apart
  obtain ⟨later, final, runs, rest, quiet, categories, full⟩ :=
    Clients.exists_announced valid client apart fits fun incoming _ => distant incoming.address
  -- The browser has no part in the scan, so the wired daemon can run it as the worker does by itself.
  let trace : List (Clients.Event ι) := .call client (.request (.scan .serial)) :: later
  have foreign : ∀ event ∈ trace, Wired.Foreign agent event := by
    intro event member
    rcases List.mem_cons.mp member with rfl | inside
    · exact different
    · rcases quiet event inside with own | ⟨envelope, rfl⟩
      · exact Wired.foreign_of_own own
      · trivial
  have uncalled : Clients.issued agent trace = [] := by
    refine List.filterMap_eq_nil_iff.mpr fun event member => ?_
    have other := foreign event member
    cases event with
    | call caller command => exact if_neg other
    | _ => rfl
  have wired : Wired.Runs agent start (trace.map .system) { start with system := final } :=
    Wired.Runs.start.others runs foreign
  refine ⟨trace.map .system, _, wired, ⟨rest.receiving, rest.unserved, rest.idle_of_uncalled runs uncalled⟩, ?_⟩
  rw [Wired.systemEvents_map]
  rw [found, categories_crowd] at categories
  exact ⟨categories, full⟩

/-- A subscriber that comes back after the scan on the crowded host has lost 192 changes and receives the last 64. -/
theorem drained_subscriber_accounts_for_changes_crowded :
    ∃ (trace : List (WiredEvent Bool)) (wired : Wired Bool Backend),
      Wired.Runs true (.start (.ofSeconds 120) (.unused Backend.registry (.object [("type", .string "adalight")]))
        Service.requestSlots fun _ => .ok ()) [trace].flatten wired ∧
      let announced := Clients.announced (Wired.systemEvents true trace)
      announced.length = 256 ∧ (Broadcast.empty Service.changeSlots).drains 0 [announced] =
        [.lagged 192 :: (announced.drop 192).map .message] := by
  have different : false ≠ true := Bool.noConfusion
  obtain ⟨trace, wired, runs, _, categories, _⟩ := exists_crowd different fun _ => .ok ()
  have steps : [trace].flatten = trace := List.flatten_singleton
  have length := congrArg List.length categories
  rw [List.length_map, List.length_cons, List.length_replicate] at length
  rw [← steps] at runs
  have received := (drained_subscriber_accounts_for_changes runs).1
  refine ⟨trace, wired, runs, length, ?_⟩
  simpa only [List.map_cons, List.map_nil, length, Nat.reduceLeDiff, if_false, Nat.reduceSub] using received

end

end Discovery
