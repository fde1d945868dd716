import Discovery.Proofs.Store.Merge
import Mathlib.Data.List.Basic
import Mathlib.Data.List.Induction
/-!
# What a history of calls says about a store

The calls that have been made on a store determine what it holds, without a look into it. A key is present from an
accepted sighting on, until it is deregistered or a clean-up comes after the deadline of its latest sighting. A
lifetime of a key is an unbroken stretch of presence. Its first sighting decides on place and host name of the
entry, its latest one on the deadline. Nothing here refers to the list that a store keeps.

One more call changes the presence of a key only if it sights the key or ends its presence. So it takes entries out
of the list, or gives one entry a new deadline, or puts one entry behind the others.
-/
namespace Discovery

open Net (Interfaces)
open Time (Instant Span)

namespace Store

/-! ## Calls -/

/-- A call on a store with what it reads of its surroundings. -/
inductive Call where
  | merge (incoming : Sighting) (interfaces : Interfaces) (window : Span) (now : Instant)
  | cleanUp (now : Instant)

inductive Report where
  | merged (outcome : MergeOutcome)
  /-- Whether the clean-up dropped an entry. -/
  | cleaned (dropped : Bool)
  deriving DecidableEq, Repr

def call (store : Store) : Call → Except Overflow (Store × Report)
  | .merge incoming interfaces window now => do
    let merge ← store.merge incoming interfaces window now
    return (merge.store, .merged merge.outcome)
  | .cleanUp now => .ok (store.cleanUp now, .cleaned !(store.expired now).isEmpty)

/-- Make calls one after the other. -/
def calls (store : Store) : List Call → Except Overflow (Store × List Report)
  | [] => .ok (store, [])
  | call :: rest => do
    let (next, report) ← store.call call
    let (last, reports) ← next.calls rest
    return (last, report :: reports)

/-! ## Presence -/

section
variable (category : Category)

/-- The call is a sighting of the key that a store of the category accepts. -/
def Call.Sights (key : Key) : Call → Prop
  | .merge incoming interfaces _ _ => incoming.Accepted category interfaces ∧ incoming.live = true ∧ incoming.key = key
  | .cleanUp _ => False

instance (key : Key) : (call : Call) → Decidable (call.Sights category key)
  | .merge .. => inferInstanceAs (Decidable (_ ∧ _))
  | .cleanUp _ => inferInstanceAs (Decidable False)

/-- The end of the window that a merge opens. -/
def Call.deadline? : Call → Option Instant
  | .merge _ _ window now => now.add? window
  | .cleanUp _ => none

/-- The deadline set by the latest accepted sighting of a key. -/
def deadlineIn (history : List Call) (key : Key) : Option Instant :=
  (history.reverse.find? fun call => call.Sights category key).bind Call.deadline?

/-- The call ends the presence of the key, if there is any: it is an accepted deregistration, or a clean-up after the
deadline set by the calls before it. -/
def Call.Ends (earlier : List Call) (key : Key) : Call → Prop
  | .merge incoming interfaces _ _ => incoming.Accepted category interfaces ∧ incoming.live = false ∧ incoming.key = key
  | .cleanUp now => ∃ expiry ∈ deadlineIn category earlier key, expiry.before now = true

instance (earlier : List Call) (key : Key) : (call : Call) → Decidable (call.Ends category earlier key)
  | .merge .. => inferInstanceAs (Decidable (_ ∧ _))
  | .cleanUp _ => inferInstanceAs (Decidable (∃ expiry ∈ deadlineIn category earlier key, _))

def SightedAt (history : List Call) (key : Key) (position : Nat) : Prop :=
  ∃ call ∈ history[position]?, call.Sights category key

def EndedAt (history : List Call) (key : Key) (position : Nat) : Prop :=
  ∃ call ∈ history[position]?, call.Ends category (history.take position) key

/-- The key has been sighted, and nothing has ended its presence since. -/
def Present (history : List Call) (key : Key) : Prop :=
  ∃ position < history.length, SightedAt category history key position ∧
    ∀ later < history.length, position < later → ¬ EndedAt category history key later

/-- The current lifetime of the key started with the call at this position: it was absent before the call and has
been present ever since. -/
def StartsAt (history : List Call) (key : Key) (start : Nat) : Prop :=
  start < history.length ∧ ¬ Present category (history.take start) key ∧
    ∀ count ≤ history.length, start < count → Present category (history.take count) key

instance (history : List Call) (key : Key) : DecidablePred (SightedAt category history key) :=
  fun position => inferInstanceAs (Decidable (∃ call ∈ history[position]?, _))

instance (history : List Call) (key : Key) : DecidablePred (EndedAt category history key) :=
  fun position => inferInstanceAs (Decidable (∃ call ∈ history[position]?, _))

instance (history : List Call) (key : Key) : Decidable (Present category history key) :=
  inferInstanceAs (Decidable (∃ position < history.length, _ ∧ ∀ later < history.length, position < later → _))

instance (history : List Call) (key : Key) : DecidablePred (StartsAt category history key) :=
  fun start => inferInstanceAs (Decidable (_ ∧ _ ∧ ∀ count ≤ history.length, start < count → _))

/-! ## What a store lists and reports -/

/-- The entry whose current lifetime started with the call at this position. -/
def entryAt (history : List Call) (start : Nat) : Option Record :=
  match history[start]? with
  | some (.merge incoming _ _ _) =>
    if StartsAt category history incoming.key start then
      (deadlineIn category history incoming.key).map (Member.mk incoming.key incoming.hostName).toRecord
    else none
  | some (.cleanUp _) | none => none

/-- The entries in the order in which their current lifetimes started. -/
def listed (history : List Call) : List Record := (List.range history.length).filterMap (entryAt category history)

/-- The outcome of a merge behind these calls. -/
def outcomeAfter (earlier : List Call) (incoming : Sighting) (interfaces : Interfaces) : MergeOutcome :=
  if incoming.Accepted category interfaces then
    match decide (Present category earlier incoming.key), incoming.live with
    | true, true => .refreshed
    | true, false => .removed
    | false, true => .added
    | false, false => .ignored
  else .ignored

/-- The report agrees with the calls before it: a merge reports its outcome, and a clean-up whether some key was
present before it and is not any more. -/
def Agrees (earlier : List Call) : Call → Report → Prop
  | .merge incoming interfaces _ _, .merged outcome => outcome = outcomeAfter category earlier incoming interfaces
  | .cleanUp now, .cleaned dropped =>
    dropped = true ↔ ∃ key, Present category earlier key ∧ ¬ Present category (earlier ++ [.cleanUp now]) key
  | .merge .., .cleaned _ | .cleanUp _, .merged _ => False

/-- A deadline that the call has to set is representable. -/
def Call.Fits : Call → Prop
  | .merge incoming interfaces window now =>
    incoming.Accepted category interfaces → incoming.live = true → (now.add? window).isSome = true
  | .cleanUp _ => True

instance : (call : Call) → Decidable (call.Fits category)
  | .merge .. => inferInstanceAs (Decidable (_ → _))
  | .cleanUp _ => inferInstanceAs (Decidable True)

end

variable {category : Category} {history : List Call} {call : Call} {key : Key}

/-! ## One more call -/

theorem deadlineIn_concat (history : List Call) (call : Call) (key : Key) :
    deadlineIn category (history ++ [call]) key =
      if call.Sights category key then call.deadline? else deadlineIn category history key := by
  simp only [deadlineIn, List.reverse_append, List.reverse_singleton, List.singleton_append, List.find?_cons]
  by_cases sights : call.Sights category key <;> simp [sights]

/-- Calls made before are found, and preceded, as they were. -/
theorem call_concat {position : Nat} (within : position < history.length) (call : Call) :
    (history ++ [call])[position]? = history[position]? ∧
      (history ++ [call]).take position = history.take position :=
  ⟨List.getElem?_append_left within, List.take_append_of_le_length (Nat.le_of_lt within)⟩

theorem sightedAt_concat {position : Nat} (within : position < history.length) :
    SightedAt category (history ++ [call]) key position ↔ SightedAt category history key position := by
  simp only [SightedAt, call_concat within]

theorem sightedAt_length : SightedAt category (history ++ [call]) key history.length ↔ call.Sights category key := by
  simp [SightedAt]

theorem endedAt_concat {position : Nat} (within : position < history.length) :
    EndedAt category (history ++ [call]) key position ↔ EndedAt category history key position := by
  simp only [EndedAt, call_concat within]

theorem endedAt_length :
    EndedAt category (history ++ [call]) key history.length ↔ call.Ends category history key := by
  simp [EndedAt]

/-- A call leaves a key present if it sights the key, or if the key was present and the call does not end that. -/
theorem present_concat : Present category (history ++ [call]) key ↔
    call.Sights category key ∨ Present category history key ∧ ¬ call.Ends category history key := by
  have length : (history ++ [call]).length = history.length + 1 := by simp
  constructor
  · rintro ⟨position, within, sighted, lasting⟩
    rw [length] at within lasting
    by_cases last : position = history.length
    · subst last
      exact .inl (sightedAt_length.mp sighted)
    · -- An earlier sighting was not followed by an end then, and is not now.
      have before : position < history.length := by omega
      refine .inr ⟨⟨position, before, (sightedAt_concat before).mp sighted, fun later inside behind ended => ?_⟩,
        fun ends => ?_⟩
      · exact lasting later (by omega) behind ((endedAt_concat inside).mpr ended)
      · exact lasting history.length (by omega) before (endedAt_length.mpr ends)
  · rintro (sights | ⟨⟨position, within, sighted, lasting⟩, ongoing⟩)
    · -- Nothing comes behind the last call.
      refine ⟨history.length, by omega, sightedAt_length.mpr sights, fun later inside behind => ?_⟩
      omega
    · refine ⟨position, by omega, (sightedAt_concat within).mpr sighted, fun later inside behind ended => ?_⟩
      by_cases last : later = history.length
      · subst last
        exact ongoing (endedAt_length.mp ended)
      · have before : later < history.length := by omega
        exact lasting later before behind ((endedAt_concat before).mp ended)

/-- An accepted sighting sights its own key and ends the presence of none. -/
theorem present_concat_of_sights {incoming : Sighting} {interfaces : Interfaces} {window : Span} {now : Instant}
    (accepted : incoming.Accepted category interfaces) (live : incoming.live = true) :
    Present category (history ++ [.merge incoming interfaces window now]) key ↔
      key = incoming.key ∨ Present category history key := by
  have sights : (Call.merge incoming interfaces window now).Sights category key ↔ key = incoming.key :=
    ⟨fun ⟨_, _, same⟩ => same.symm, fun same => ⟨accepted, live, same.symm⟩⟩
  have ongoing : ¬ (Call.merge incoming interfaces window now).Ends category history key := fun ⟨_, gone, _⟩ => by
    rw [live] at gone
    cases gone
  rw [present_concat, sights, and_iff_left ongoing]

theorem StartsAt.present {start : Nat} (starts : StartsAt category history key start) :
    Present category history key := by
  obtain ⟨within, _, lasting⟩ := starts
  simpa using lasting history.length (Nat.le_refl _) within

theorem startsAt_concat {start : Nat} (within : start < history.length) :
    StartsAt category (history ++ [call]) key start ↔
      StartsAt category history key start ∧ Present category (history ++ [call]) key := by
  have length : (history ++ [call]).length = history.length + 1 := by simp
  have prefixes {count : Nat} (inside : count ≤ history.length) :
      (history ++ [call]).take count = history.take count := List.take_append_of_le_length inside
  constructor
  · intro starts
    have present := starts.present
    obtain ⟨_, absent, lasting⟩ := starts
    rw [prefixes (Nat.le_of_lt within)] at absent
    refine ⟨⟨within, absent, fun count inside behind => ?_⟩, present⟩
    rw [← prefixes inside]
    exact lasting count (by omega) behind
  · rintro ⟨⟨_, absent, lasting⟩, present⟩
    refine ⟨by omega, by rwa [prefixes (Nat.le_of_lt within)], fun count inside behind => ?_⟩
    by_cases whole : count = history.length + 1
    · rwa [List.take_of_length_le (by omega)]
    · have part : count ≤ history.length := by omega
      rw [prefixes part]
      exact lasting count part behind

theorem startsAt_length : StartsAt category (history ++ [call]) key history.length ↔
    ¬ Present category history key ∧ Present category (history ++ [call]) key := by
  have length : (history ++ [call]).length = history.length + 1 := by simp
  have earlier : (history ++ [call]).take history.length = history := List.take_left
  constructor
  · intro starts
    exact ⟨earlier ▸ starts.2.1, starts.present⟩
  · rintro ⟨absent, present⟩
    refine ⟨by omega, by rwa [earlier], fun count inside behind => ?_⟩
    rwa [List.take_of_length_le (by omega)]

/-! ## What is listed -/

theorem Present.isSome_deadlineIn (present : Present category history key)
    (fits : ∀ call ∈ history, call.Fits category) : (deadlineIn category history key).isSome = true := by
  obtain ⟨position, _, ⟨call, occurs, sights⟩, _⟩ := present
  have member : call ∈ history := List.mem_of_getElem? occurs
  cases found : history.reverse.find? fun call => call.Sights category key with
  | none =>
    have unsighted := List.find?_eq_none.mp found call (List.mem_reverse.mpr member)
    simp [sights] at unsighted
  | some latest =>
    have sighting : latest.Sights category key := by simpa using List.find?_some found
    have fit := fits latest (List.mem_reverse.mp (List.mem_of_find?_eq_some found))
    simp only [deadlineIn, found, Option.bind_some]
    cases latest with
    | merge incoming interfaces window now => exact fit sighting.1 sighting.2.1
    | cleanUp now => exact sighting.elim

theorem entryAt_eq_some {start : Nat} {record : Record} (entry : entryAt category history start = some record) :
    StartsAt category history record.key start ∧ deadlineIn category history record.key = some record.expiry := by
  unfold entryAt at entry
  split at entry
  next incoming interfaces window now _ =>
    split at entry
    next starts =>
      obtain ⟨expiry, due, rfl⟩ := Option.map_eq_some_iff.mp entry
      exact ⟨starts, due⟩
    next => cases entry
  next => cases entry
  next => cases entry

theorem of_mem_listed {record : Record} (member : record ∈ listed category history) :
    Present category history record.key ∧ deadlineIn category history record.key = some record.expiry := by
  obtain ⟨start, _, entry⟩ := List.mem_filterMap.mp member
  obtain ⟨starts, due⟩ := entryAt_eq_some entry
  exact ⟨starts.present, due⟩

/-- The entry as a longer history has it: with the deadline set there, and only if its key is still present. -/
def carried (category : Category) (history : List Call) (record : Record) : Option Record :=
  if Present category history record.key then
    (deadlineIn category history record.key).map fun expiry => { record with expiry }
  else none

theorem entryAt_concat (fits : ∀ call ∈ history, call.Fits category) {start : Nat} (within : start < history.length) :
    entryAt category (history ++ [call]) start =
      (entryAt category history start).bind (carried category (history ++ [call])) := by
  simp only [entryAt, (call_concat within _).1]
  cases history[start]? with
  | none => rfl
  | some earlier =>
    cases earlier with
    | cleanUp now => rfl
    | merge incoming interfaces window now =>
      simp only [startsAt_concat within]
      by_cases starts : StartsAt category history incoming.key start
      · obtain ⟨expiry, due⟩ := Option.isSome_iff_exists.mp (starts.present.isSome_deadlineIn fits)
        simp only [starts, true_and, if_true, due, Option.map_some, Option.bind_some]
        rfl
      · simp only [starts, false_and, if_false, Option.bind_none]

/-- A call carries the entries over and may put one behind them. -/
theorem listed_concat (fits : ∀ call ∈ history, call.Fits category) :
    listed category (history ++ [call]) =
      (listed category history).filterMap (carried category (history ++ [call])) ++
        (entryAt category (history ++ [call]) history.length).toList := by
  have carries : (List.range history.length).filterMap (entryAt category (history ++ [call])) =
      (listed category history).filterMap (carried category (history ++ [call])) := by
    rw [listed, List.filterMap_filterMap]
    refine List.filterMap_congr fun start member => ?_
    exact entryAt_concat fits (List.mem_range.mp member)
  have last : [history.length].filterMap (entryAt category (history ++ [call])) =
      (entryAt category (history ++ [call]) history.length).toList := by
    cases entry : entryAt category (history ++ [call]) history.length <;> simp [entry]
  rw [← carries, ← last, listed, List.length_append, List.length_singleton, List.range_succ, List.filterMap_append]

/-- A call that is no sighting takes out the entries whose presence it ends. -/
theorem listed_concat_of_not_sights (fits : ∀ call ∈ history, call.Fits category)
    (silent : ∀ key, ¬ call.Sights category key) :
    listed category (history ++ [call]) =
      (listed category history).filter fun record => ¬ call.Ends category history record.key := by
  -- A lifetime starts with a sighting, so no entry is put behind the others.
  have none : entryAt category (history ++ [call]) history.length = none := by
    cases entry : entryAt category (history ++ [call]) history.length with
    | none => rfl
    | some record =>
      obtain ⟨absent, present⟩ := startsAt_length.mp (entryAt_eq_some entry).1
      rcases present_concat.mp present with sights | ⟨before, _⟩
      · exact absurd sights (silent record.key)
      · exact absurd before absent
  rw [listed_concat fits, none, Option.toList_none, List.append_nil, ← List.filterMap_eq_filter]
  refine List.filterMap_congr fun record member => ?_
  obtain ⟨present, due⟩ := of_mem_listed member
  simp [carried, present_concat, deadlineIn_concat, silent, present, due, Option.guard]

private theorem toRecord_eq {incoming : Sighting} (live : incoming.live = true) (expiry : Instant) :
    (Member.mk incoming.key incoming.hostName).toRecord expiry = { incoming with expiry } := by
  cases incoming
  cases live
  rfl

/-- A sighting gives the entry of its key a new deadline, and puts it behind the others if there was none. -/
theorem listed_concat_of_sights (fits : ∀ call ∈ history, call.Fits category) {incoming : Sighting}
    {interfaces : Interfaces} {window : Span} {now expiry : Instant}
    (accepted : incoming.Accepted category interfaces) (live : incoming.live = true)
    (due : now.add? window = some expiry) :
    listed category (history ++ [.merge incoming interfaces window now]) =
      (listed category history).map (·.renewUnder incoming.key expiry) ++
      if Present category history incoming.key then [] else [{ incoming with expiry }] := by
  let call : Call := .merge incoming interfaces window now
  have present (key : Key) : Present category (history ++ [call]) key ↔
      key = incoming.key ∨ Present category history key := present_concat_of_sights accepted live
  have deadline (key : Key) : deadlineIn category (history ++ [call]) key =
      if key = incoming.key then some expiry else deadlineIn category history key := by
    rw [deadlineIn_concat]
    exact if_congr ⟨fun ⟨_, _, same⟩ => same.symm, fun same => ⟨accepted, live, same.symm⟩⟩ due rfl
  rw [listed_concat fits]
  refine congr (congrArg _ ?_) ?_
  · -- Entries carried over. All stay present, and only the deadline of the sighted key moves.
    rw [List.filterMap_eq_map_iff_forall_eq_some]
    intro record member
    obtain ⟨before, old⟩ := of_mem_listed member
    rw [carried, if_pos ((present record.key).mpr (.inr before)), deadline, Record.renewUnder]
    split
    · rfl
    · rw [old]
      rfl
  · -- The entry that the call starts. There is none if the lifetime is already running.
    have last : (history ++ [call])[history.length]? = some call := by simp
    have entry : entryAt category (history ++ [call]) history.length =
        if Present category history incoming.key then none else some { incoming with expiry } := by
      simp only [entryAt, last, call]
      by_cases before : Present category history incoming.key
      · have running : ¬ StartsAt category (history ++ [call]) incoming.key history.length := fun starts =>
          (startsAt_length.mp starts).1 before
        rw [if_neg running, if_pos before]
      · have starts : StartsAt category (history ++ [call]) incoming.key history.length :=
          startsAt_length.mpr ⟨before, (present incoming.key).mpr (.inl rfl)⟩
        rw [if_pos starts, if_neg before, deadline, if_pos rfl, Option.map_some, toRecord_eq live]
    rw [entry]
    split <;> rfl

theorem mem_keys_listed (fits : ∀ call ∈ history, call.Fits category) (key : Key) :
    key ∈ (listed category history).map (·.key) ↔ Present category history key := by
  induction history using List.reverseRecOn with
  | nil => simp [listed, Present]
  | append_singleton history call ih =>
    have earlier : ∀ call ∈ history, call.Fits category := fun call member =>
      fits call (List.mem_append_left _ member)
    by_cases sighting : ∃ key, call.Sights category key
    · -- A sighting keeps all keys and adds its own unless it is there.
      obtain ⟨sighted, sights⟩ := sighting
      cases call with
      | cleanUp now => exact sights.elim
      | merge incoming interfaces window now =>
        obtain ⟨accepted, live, same⟩ := sights
        have fit : (now.add? window).isSome = true := fits (.merge incoming interfaces window now) (by simp) accepted live
        obtain ⟨expiry, due⟩ := Option.isSome_iff_exists.mp fit
        have renewed : ((listed category history).map (·.renewUnder incoming.key expiry)).map (·.key) =
            (listed category history).map (·.key) := by
          simp only [List.map_map, Function.comp_def, Record.key_renewUnder]
        rw [listed_concat_of_sights earlier accepted live due, List.map_append, List.mem_append, renewed, ih earlier,
          present_concat_of_sights accepted live, or_comm]
        split
        next before =>
          have known : key = incoming.key → Present category history key := fun same => same ▸ before
          simpa using known
        next => exact or_congr_left (List.mem_singleton)
    · -- Any other call takes out exactly the keys whose presence it ends.
      have silent : ∀ key, ¬ call.Sights category key := not_exists.mp sighting
      rw [listed_concat_of_not_sights earlier silent, present_concat, ← ih earlier]
      simp only [List.mem_map, List.mem_filter, decide_eq_true_eq, silent, false_or]
      constructor
      · rintro ⟨record, ⟨member, ongoing⟩, rfl⟩
        exact ⟨⟨record, member, rfl⟩, ongoing⟩
      · rintro ⟨⟨record, member, rfl⟩, ongoing⟩
        exact ⟨record, ⟨member, ongoing⟩, rfl⟩

end Store

end Discovery
