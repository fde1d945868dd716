import Discovery.Proofs.Store.History
/-!
# A store holds what its history lists

Each case of a merge and a clean-up does to the records of a store what the call does to the list that the history
describes. By induction on the calls a store holds what its history lists.
-/
namespace Discovery

open Net (Interfaces)
open Time (Instant Span)

namespace Store

variable {category : Category} {history : List Call} {call : Call}

/-! ## The step -/

/-- The store is the one that the history describes. -/
structure Follows (category : Category) (history : List Call) (store : Store) : Prop where
  own : store.category = category
  sound : store.Sound
  listed : store.records = listed category history

theorem follows_empty (category : Category) : Follows category [] (empty category) :=
  ⟨rfl, sound_empty category, rfl⟩

variable {store next : Store} {incoming : Sighting} {interfaces : Interfaces} {window : Span} {now : Instant}
  {outcome : MergeOutcome}

theorem Follows.mem_keys (follows : Follows category history store) (fits : ∀ call ∈ history, call.Fits category)
    (key : Key) : key ∈ store.records.map (·.key) ↔ Present category history key := by
  rw [follows.listed, mem_keys_listed fits]

theorem Follows.merges (follows : Follows category history store) (fits : ∀ call ∈ history, call.Fits category)
    (merges : Merges store incoming interfaces window now next outcome) :
    Follows category (history ++ [.merge incoming interfaces window now]) next ∧
      outcome = outcomeAfter category history incoming interfaces := by
  have keys := follows.mem_keys fits incoming.key
  have sound := sound_merges merges follows.sound
  have own := (category_merges merges).trans follows.own
  -- Case by case the merge does to the records what the call does to the list.
  suffices listed : next.records = Store.listed category (history ++ [.merge incoming interfaces window now]) ∧
      outcome = outcomeAfter category history incoming interfaces from ⟨⟨own, sound, listed.1⟩, listed.2⟩
  obtain ⟨rfl, distinct, records⟩ := follows
  have silent (accepted : incoming.Accepted store.category interfaces) (gone : incoming.live = false) (key : Key) :
      ¬ (Call.merge incoming interfaces window now).Sights store.category key := fun ⟨_, live, _⟩ => by
    rw [gone] at live
    cases live
  cases merges with
  | refused refused =>
    have silent : ∀ key, ¬ (Call.merge incoming interfaces window now).Sights store.category key :=
      fun key sights => refused sights.1
    rw [listed_concat_of_not_sights fits silent, ← records]
    refine ⟨(List.filter_eq_self.mpr fun record _ => ?_).symm, by simp [outcomeAfter, refused]⟩
    exact decide_eq_true fun ends => refused ends.1
  | refreshed accepted live due held =>
    have present := keys.mp held
    rw [listed_concat_of_sights fits accepted live due, if_pos present, List.append_nil, ← records]
    exact ⟨renewFirst_eq_map distinct.unique, by simp [outcomeAfter, accepted, present, live]⟩
  | added accepted live due absent =>
    have fresh := mt keys.mpr absent
    rw [listed_concat_of_sights fits accepted live due, if_neg fresh, ← records, map_renewUnder_of_absent absent]
    exact ⟨rfl, by simp [outcomeAfter, accepted, fresh, live]⟩
  | removed accepted gone held =>
    have present := keys.mp held
    rw [listed_concat_of_not_sights fits (silent accepted gone), ← records]
    refine ⟨List.filter_congr fun record _ => ?_, by simp [outcomeAfter, accepted, present, gone]⟩
    simp [Call.Ends, accepted, gone, eq_comm]
  | unmatched accepted gone absent =>
    have missing := mt keys.mpr absent
    rw [listed_concat_of_not_sights fits (silent accepted gone), ← records]
    refine ⟨(List.filter_eq_self.mpr fun record member => ?_).symm, by simp [outcomeAfter, accepted, missing, gone]⟩
    exact decide_eq_true fun ends => absent (List.mem_map.mpr ⟨record, member, ends.2.2.symm⟩)

theorem Follows.cleanUp (follows : Follows category history store) (fits : ∀ call ∈ history, call.Fits category)
    (now : Instant) : Follows category (history ++ [.cleanUp now]) (store.cleanUp now) := by
  refine ⟨follows.own, sound_cleanUp follows.sound, ?_⟩
  rw [listed_concat_of_not_sights fits fun _ => id, ← follows.listed]
  refine List.filter_congr fun record member => ?_
  have due := (of_mem_listed (follows.listed ▸ member)).2
  simp [Call.Ends, due, Record.expiredAt]

/-- A clean-up drops something exactly when it ends the presence of a key. -/
theorem Follows.dropped_iff (follows : Follows category history store) (fits : ∀ call ∈ history, call.Fits category)
    (now : Instant) : (!(store.expired now).isEmpty) = true ↔
      ∃ key, Present category history key ∧ ¬ Present category (history ++ [.cleanUp now]) key := by
  have expired : (!(store.expired now).isEmpty) = true ↔ ∃ record ∈ store.records, record.expiry.before now = true := by
    simp [Store.expired, Record.expiredAt]
  have ended (key : Key) (present : Present category history key) :
      ¬ Present category (history ++ [.cleanUp now]) key ↔
        ∃ expiry ∈ deadlineIn category history key, expiry.before now = true := by
    simp [present_concat, present, Call.Sights, Call.Ends]
  rw [expired]
  constructor
  · rintro ⟨record, member, late⟩
    obtain ⟨present, due⟩ := of_mem_listed (follows.listed ▸ member)
    exact ⟨record.key, present, (ended record.key present).mpr ⟨record.expiry, due, late⟩⟩
  · rintro ⟨key, present, absent⟩
    obtain ⟨expiry, due, late⟩ := (ended key present).mp absent
    obtain ⟨record, member, rfl⟩ := List.mem_map.mp ((follows.mem_keys fits key).mpr present)
    obtain rfl : expiry = record.expiry :=
      Option.some.inj (due.symm.trans (of_mem_listed (follows.listed ▸ member)).2)
    exact ⟨record, member, late⟩

theorem Follows.exists_call (follows : Follows category history store) (fits : ∀ call ∈ history, call.Fits category)
    {call : Call} (fit : call.Fits category) :
    ∃ next report, store.call call = .ok (next, report) ∧ Follows category (history ++ [call]) next ∧
      Agrees category history call report := by
  cases call with
  | merge incoming interfaces window now =>
    have succeeds : ∃ merge, store.merge incoming interfaces window now = .ok merge :=
      exists_merge (follows.own ▸ fit)
    obtain ⟨merge, returned⟩ := succeeds
    obtain ⟨described, agrees⟩ := follows.merges fits (merges_of_merge returned)
    refine ⟨merge.store, .merged merge.outcome, ?_, described, agrees⟩
    simp [Store.call, returned, bind, Except.bind, pure, Except.pure]
  | cleanUp now =>
    exact ⟨store.cleanUp now, .cleaned !(store.expired now).isEmpty, rfl, follows.cleanUp fits now,
      follows.dropped_iff fits now⟩

/-! ## The run -/

/-- A further call behind calls that have succeeded. -/
theorem calls_concat {store last after : Store} {reports : List Report} {report : Report}
    (returned : store.calls history = .ok (last, reports)) (further : last.call call = .ok (after, report)) :
    store.calls (history ++ [call]) = .ok (after, reports ++ [report]) := by
  induction history generalizing store reports with
  | nil =>
    cases returned
    simp [calls, further, bind, Except.bind, pure, Except.pure]
  | cons first rest ih =>
    simp only [calls, bind, Except.bind, pure, Except.pure] at returned
    split at returned
    next => cases returned
    next step moved =>
      split at returned
      next => cases returned
      next tail followed =>
        cases returned
        simp [calls, moved, ih followed, bind, Except.bind, pure, Except.pure]

/-- Every call has a report, which agrees with the calls before it. -/
def Accounts (category : Category) (history : List Call) (reports : List Report) : Prop :=
  reports.length = history.length ∧
    ∀ position call report, history[position]? = some call → reports[position]? = some report →
      Agrees category (history.take position) call report

theorem Accounts.concat {reports : List Report} {report : Report} (accounts : Accounts category history reports)
    (agrees : Agrees category history call report) :
    Accounts category (history ++ [call]) (reports ++ [report]) := by
  obtain ⟨length, earlier⟩ := accounts
  refine ⟨by simp [length], fun position made given occurs reported => ?_⟩
  have within : position < history.length + 1 := by
    simpa using (List.getElem?_eq_some_iff.mp occurs).1
  by_cases last : position = history.length
  · subst last
    rw [← length, List.getElem?_concat_length] at reported
    rw [List.getElem?_concat_length] at occurs
    obtain rfl := Option.some.inj occurs
    obtain rfl := Option.some.inj reported
    rwa [List.take_left]
  · have before : position < history.length := by omega
    rw [(call_concat before call).1] at occurs
    rw [List.getElem?_append_left (length ▸ before)] at reported
    rw [(call_concat before call).2]
    exact earlier position made given occurs reported

theorem follows_calls (category : Category) (history : List Call) (fits : ∀ call ∈ history, call.Fits category) :
    ∃ store reports, (empty category).calls history = .ok (store, reports) ∧
      Follows category history store ∧ Accounts category history reports := by
  induction history using List.reverseRecOn with
  | nil => exact ⟨empty category, [], rfl, follows_empty category, rfl, by simp⟩
  | append_singleton history call ih =>
    have earlier : ∀ call ∈ history, call.Fits category := fun made member =>
      fits made (List.mem_append_left _ member)
    obtain ⟨store, reports, returned, follows, accounts⟩ := ih earlier
    obtain ⟨next, report, moved, followed, agrees⟩ := follows.exists_call earlier (fits call (by simp))
    exact ⟨next, reports ++ [report], calls_concat returned moved, followed, accounts.concat agrees⟩

/-- Calls whose deadlines are representable all succeed. The store then holds what the history lists: exactly the
keys that are present, in the order in which their current lifetimes started, live, each with the host name of the
first and the deadline of the latest sighting of that lifetime. Every report agrees with the calls before it. -/
theorem calls_eq_listed (category : Category) (history : List Call) (fits : ∀ call ∈ history, call.Fits category) :
    ∃ store reports, (empty category).calls history = .ok (store, reports) ∧
      store.category = category ∧
      (∀ key, key ∈ store.records.map (·.key) ↔ Present category history key) ∧
      store.records = listed category history ∧
      Accounts category history reports := by
  obtain ⟨store, reports, returned, follows, accounts⟩ := follows_calls category history fits
  exact ⟨store, reports, returned, follows.own, follows.mem_keys fits, follows.listed, accounts⟩

/-- A board that is refreshed after its deadline, deregistered, seen by itself and back under another name while the
clock has been set back, and one that is there all the time. -/
def rejoined : List Call :=
  let board (hostName : String) (live : Bool) : Sighting := ⟨.wled, "10.0.0.5", 80, hostName, live⟩
  let lasting : Sighting := ⟨.wled, "10.0.0.6", 80, "attic", true⟩
  let second (seconds : Int) (inRange : Time.earliest ≤ seconds ∧ seconds ≤ Time.latest) : Instant :=
    ⟨seconds, 0, inRange, .inl (by decide)⟩
  let unread : Interfaces := .unreadable "down"
  [.merge (board "old" true) unread (.ofSeconds 10) .epoch,
   .merge lasting unread (.ofSeconds 100) .epoch,
   .merge (board "ignored" true) unread (.ofSeconds 10) (second 50 (by decide)),
   .cleanUp (second 55 (by decide)),
   .merge (board "" false) unread (.ofSeconds 10) (second 56 (by decide)),
   .merge (board "self" true) (.readable [.v4 #v[10, 0, 0, 5]]) (.ofSeconds 10) (second 57 (by decide)),
   .merge (board "new" true) unread (.ofSeconds 7) (second 3 (by decide)),
   .merge { lasting with category := .hue, live := false } unread (.ofSeconds 7) (second 4 (by decide))]

theorem calls_eq_listed_rejoined :
    (∀ call ∈ rejoined, call.Fits .wled) ∧
    ∃ store reports, (empty .wled).calls rejoined = .ok (store, reports) ∧
      store.records.map (fun record => (record.address, record.hostName)) =
        [("10.0.0.6", "attic"), ("10.0.0.5", "new")] := by
  have fits : ∀ call ∈ rejoined, call.Fits .wled := by decide +kernel
  obtain ⟨store, reports, returned, _, _, records, _⟩ := calls_eq_listed .wled rejoined fits
  exact ⟨fits, store, reports, returned, records ▸ by decide +kernel⟩

end Store

end Discovery
