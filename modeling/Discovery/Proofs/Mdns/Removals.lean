import Discovery.Proofs.Mdns.Browses
import Discovery.Proofs.Trace
/-!
# Removals

A removal names a service and nothing else. What the browser remembers of the service is read off its past alone: the
last sighting it has reported under that name, unless the removal of the name has been heard since. A deregistration
repeats that sighting, and where there is none the removal is passed over.
-/
namespace Discovery.Mdns

namespace Happening

/-- A service of that name was resolved, on whichever channel. -/
def resolves (happening : Happening) (name : String) : Prop :=
  match happening with
  | .arrival _ (.event (.resolved service)) => service.fullName = name
  | _ => False

def removes (happening : Happening) (name : String) : Prop :=
  match happening with
  | .arrival _ (.event (.removed removed)) => removed = name
  | _ => False

end Happening

namespace Round

/-- The service was resolved and reported. -/
def sights (round : Round) (name : String) (sighting : Sighting) : Prop :=
  round.happening.resolves name ∧ round.report = some sighting

/-- The removal of the service was heard, on the channel of a browse that was the newest then. -/
def dismisses (round : Round) (name : String) : Prop :=
  round.happening.removes name ∧ round.current = true

end Round

/-- The last sighting reported under a name, if the removal of that name has not been heard since. -/
def Sighted (rounds : List Round) (name : String) (sighting : Sighting) : Prop :=
  ∃ earlier round later, rounds = earlier ++ round :: later ∧ round.sights name sighting ∧
    ∀ other ∈ later, (∀ newer, ¬ other.sights name newer) ∧ ¬ other.dismisses name

theorem not_sighted_nil (name : String) (sighting : Sighting) : ¬ Sighted [] name sighting := by
  rintro ⟨earlier, round, later, split, _⟩
  simp at split

theorem sighted_concat (rounds : List Round) (round : Round) (name : String) (sighting : Sighting) :
    Sighted (rounds ++ [round]) name sighting ↔
      round.sights name sighting ∨
        (Sighted rounds name sighting ∧ (∀ newer, ¬ round.sights name newer) ∧ ¬ round.dismisses name) := by
  constructor
  · rintro ⟨earlier, last, later, split, sights, silent⟩
    -- The sighting is the new round, or it is among the old ones and the new round has left it standing.
    rcases split_concat split with ⟨rfl, rfl, rfl⟩ | ⟨between, rfl, rest⟩
    · exact .inl sights
    · have quiet := silent round (by simp)
      exact .inr ⟨⟨earlier, last, between, rest, sights, fun other member => silent other (by simp [member])⟩, quiet⟩
  · rintro (sights | ⟨⟨earlier, last, later, rfl, sights, silent⟩, quiet⟩)
    · exact ⟨rounds, round, [], rfl, sights, by simp⟩
    · refine ⟨earlier, last, later ++ [round], by simp, sights, fun other member => ?_⟩
      rcases List.mem_append.mp member with old | new
      · exact silent other old
      · rw [List.mem_singleton.mp new]
        exact quiet

/-! ## What is remembered -/

variable {browser next : Browser} {listener : Listener} {arrival : Arrival} {report : Option Sighting}

namespace Browser

theorem lookup_filter_ne (table : List (String × Sighting)) (gone name : String) :
    (table.filter (·.1 ≠ gone)).lookup name = if name = gone then none else table.lookup name := by
  induction table with
  | nil => simp
  | cons entry rest ih =>
    obtain ⟨held, sighting⟩ := entry
    by_cases same : held = gone <;> by_cases asked : name = held <;> grind

theorem remembered?_remember (browser : Browser) (fullName name : String) (sighting : Sighting) :
    (browser.remember fullName sighting).remembered? name =
      if name = fullName then some sighting else browser.remembered? name := by
  simp only [remember, remembered?, List.lookup_cons, lookup_filter_ne]
  grind

theorem remembered?_forget (browser : Browser) (fullName name : String) :
    (browser.forget fullName).remembered? name = if name = fullName then none else browser.remembered? name :=
  lookup_filter_ne browser.resolved fullName name

end Browser

theorem Starts.resolved {responder : Responder} {category : Category} {made : List Call}
    (starts : Starts browser responder category next made) : next.resolved = browser.resolved := by
  cases starts <;> rfl

theorem resolved_restart (browser : Browser) (responder : Responder) (category : Category) :
    (browser.restart responder category).browser.resolved = browser.resolved := by
  unfold Browser.restart
  cases category.serviceType? with
  | none => rfl
  | some => exact (starts_start browser responder category).resolved

theorem resolved_start (responder : Responder) : (History.start responder).browser.resolved = [] := by
  refine List.foldlRecOn Category.concrete _ (motive := fun done : Browsing => done.browser.resolved = []) rfl ?_
  intro done empty category _
  exact (starts_start done.browser responder category).resolved.trans empty

/-- What arrives on a channel changes the memory of a name only if it sights the name or dismisses it. -/
theorem Receives.remembered? (receives : Receives browser listener arrival next report) (name : String)
    (sighting : Sighting) :
    let round : Round := ⟨.arrival listener arrival, browser.hears listener, [], report⟩
    next.remembered? name = some sighting ↔ round.sights name sighting ∨
      (browser.remembered? name = some sighting ∧ (∀ newer, ¬ round.sights name newer) ∧ ¬ round.dismisses name) := by
  intro round
  cases receives with
  | unheard absent =>
    simp [Round.sights, Round.dismisses, round, Browser.hears, absent]
  | outdated _ outdated =>
    simp [Round.sights, Round.dismisses, round, Browser.hears, outdated, Browser.remembered?, Browser.ignore]
  | disconnected =>
    simp [Round.sights, Round.dismisses, Happening.removes, round, Browser.remembered?, Browser.ignore]
  | unplaced => simp [Round.sights, Round.dismisses, Happening.removes, round]
  | @passing event _ unresolved unremoved =>
    cases event with
    | removed gone => exact absurd rfl (unremoved gone)
    | _ => simp [Round.sights, Round.dismisses, Happening.removes, round]
  | @resolved service fresh =>
    rw [Browser.remembered?_remember]
    have sights (newer : Sighting) : round.sights name newer ↔ name = service.fullName ∧ fresh = newer := by
      simp [Round.sights, Happening.resolves, round, eq_comm]
    have keeps : ¬ round.dismisses name := by simp [Round.dismisses, Happening.removes, round]
    simp only [sights, keeps]
    by_cases same : name = service.fullName <;> simp [same]
  | @removed gone last heard =>
    rw [Browser.remembered?_forget]
    have unseen (newer : Sighting) : ¬ round.sights name newer := by simp [Round.sights, Happening.resolves, round]
    have dismisses : round.dismisses name ↔ name = gone := by
      simp [Round.dismisses, Happening.removes, round, heard, eq_comm]
    simp only [unseen, dismisses]
    by_cases same : name = gone <;> simp [same]
  | @unknown gone heard absent =>
    have unseen (newer : Sighting) : ¬ round.sights name newer := by simp [Round.sights, Happening.resolves, round]
    have dismisses : round.dismisses name ↔ name = gone := by
      simp [Round.dismisses, Happening.removes, round, heard, eq_comm]
    simp only [unseen, dismisses]
    by_cases same : name = gone <;> simp [same, absent]

theorem remembered?_serve (browser : Browser) (happening : Happening) (name : String) (sighting : Sighting) :
    let (next, round) := browser.serve happening
    next.remembered? name = some sighting ↔ round.sights name sighting ∨
      (browser.remembered? name = some sighting ∧ (∀ newer, ¬ round.sights name newer) ∧ ¬ round.dismisses name) := by
  cases happening with
  | scan responder category =>
    simp [Browser.serve, Round.sights, Round.dismisses, Happening.removes, Browser.remembered?, resolved_restart]
  | arrival listener arrival => exact (receives_receive browser listener arrival).remembered? name sighting

/-- The browser's table holds under every name the sighting that the past tells. -/
theorem remembered?_after (responder : Responder) (happenings : List Happening) (name : String) (sighting : Sighting) :
    (History.after responder happenings).browser.remembered? name = some sighting ↔
      Sighted (History.after responder happenings).rounds name sighting := by
  induction happenings using List.reverseRecOn generalizing sighting with
  | nil =>
    have never : ¬ Sighted (History.after responder []).rounds name sighting := not_sighted_nil name sighting
    simp only [never, iff_false]
    simp [History.after, Browser.remembered?, resolved_start]
  | append_singleton happenings happening ih =>
    -- The table and the past change with a round in the same way.
    rw [History.after_concat]
    have served := remembered?_serve (History.after responder happenings).browser happening name sighting
    rw [ih] at served
    exact served.trans (sighted_concat _ _ name sighting).symm

/-! ## Reports -/

/-- Every round of a history is what the browser did about one of the happenings, after those before it. -/
theorem round_of_split {responder : Responder} {happenings : List Happening} {earlier later : List Round} {round : Round}
    (split : (History.after responder happenings).rounds = earlier ++ round :: later) :
    ∃ before happening rest, happenings = before ++ happening :: rest ∧
      earlier = (History.after responder before).rounds ∧
      round = ((History.after responder before).browser.serve happening).2 := by
  induction happenings using List.reverseRecOn generalizing later with
  | nil => simp [History.after, History.start] at split
  | append_singleton happenings happening ih =>
    rw [History.after_concat] at split
    rcases split_concat split with ⟨rfl, rfl, rfl⟩ | ⟨between, rfl, inside⟩
    · exact ⟨happenings, happening, [], rfl, rfl, rfl⟩
    · obtain ⟨before, first, rest, rfl, past, served⟩ := ih inside
      exact ⟨before, first, rest ++ [happening], by simp, past, served⟩

/-- A report is either of a service resolved on this channel, or it repeats, as gone, what was remembered under the name
removed. -/
theorem Receives.report_cases {sighting : Sighting} (receives : Receives browser listener arrival next (some sighting)) :
    (∃ service, arrival = .event (.resolved service) ∧ service.sighting? listener.category = some sighting) ∨
      ∃ name last, arrival = .event (.removed name) ∧ browser.hears listener = true ∧
        browser.remembered? name = some last ∧ sighting = { last with live := false } := by
  cases receives with
  | @resolved service _ _ found => exact .inl ⟨service, rfl, found⟩
  | @removed name last heard found => exact .inr ⟨name, last, rfl, heard, found, rfl⟩

theorem live_of_sighting? {service : Announcement} {category : Category} {sighting : Sighting}
    (found : service.sighting? category = some sighting) : sighting.live = true ∧ sighting.category = category := by
  obtain ⟨address, _, rfl⟩ := Option.map_eq_some_iff.mp found
  exact ⟨rfl, rfl⟩

/-- A service of that name was resolved, on whichever channel, and this is what it amounted to. -/
def Resolved (happenings : List Happening) (name : String) (sighting : Sighting) : Prop :=
  ∃ listener service, .arrival listener (.event (.resolved service)) ∈ happenings ∧ service.fullName = name ∧
    service.sighting? listener.category = some sighting

theorem Resolved.append {happenings : List Happening} {name : String} {sighting : Sighting}
    (resolved : Resolved happenings name sighting) (later : List Happening) :
    Resolved (happenings ++ later) name sighting := by
  obtain ⟨listener, service, member, rest⟩ := resolved
  exact ⟨listener, service, List.mem_append_left later member, rest⟩

theorem resolved_of_sighted {responder : Responder} {happenings : List Happening} {name : String}
    {sighting : Sighting} (sighted : Sighted (History.after responder happenings).rounds name sighting) :
    Resolved happenings name sighting := by
  obtain ⟨earlier, round, later, split, ⟨resolves, reported⟩, _⟩ := sighted
  obtain ⟨before, happening, rest, rfl, _, rfl⟩ := round_of_split split
  match happening, resolves with
  | .arrival listener (.event (.resolved service)), (same : service.fullName = name) =>
    have receives := receives_receive (History.after responder before).browser listener (.event (.resolved service))
    simp only [Browser.serve] at reported
    rw [reported] at receives
    rcases receives.report_cases with ⟨_, this, found⟩ | ⟨_, _, other, _⟩
    · cases this
      exact ⟨listener, service, by simp, same, found⟩
    · cases other

theorem repeats_of_deregistration {responder : Responder} {happenings : List Happening} {earlier later : List Round}
    {round : Round} {sighting : Sighting}
    (split : (History.after responder happenings).rounds = earlier ++ round :: later)
    (reported : round.report = some sighting) (gone : sighting.live = false) :
    ∃ listener name last, round.happening = .arrival listener (.event (.removed name)) ∧ round.current = true ∧
      Sighted earlier name last ∧ sighting = { last with live := false } := by
  obtain ⟨before, happening, rest, rfl, rfl, rfl⟩ := round_of_split split
  cases happening with
  | scan => cases reported
  | arrival listener arrival =>
    have receives := receives_receive (History.after responder before).browser listener arrival
    simp only [Browser.serve] at reported ⊢
    rw [reported] at receives
    rcases receives.report_cases with ⟨service, _, found⟩ | ⟨name, last, rfl, heard, remembered, rfl⟩
    · simp [(live_of_sighting? found).1] at gone
    · exact ⟨listener, name, last, rfl, heard, (remembered?_after responder before name last).mp remembered, rfl⟩

theorem unreported_of_unsighted {responder : Responder} {happenings : List Happening} {earlier later : List Round}
    {round : Round} {name : String}
    (split : (History.after responder happenings).rounds = earlier ++ round :: later)
    (removes : round.happening.removes name) (never : ∀ last, ¬ Sighted earlier name last) : round.report = none := by
  obtain ⟨before, happening, rest, rfl, rfl, rfl⟩ := round_of_split split
  match happening, removes with
  | .arrival listener (.event (.removed _)), rfl =>
    have receives := receives_receive (History.after responder before).browser listener (.event (.removed name))
    simp only [Browser.serve]
    cases report : ((History.after responder before).browser.receive listener (.event (.removed name))).2 with
    | none => rfl
    | some sighting =>
      rw [report] at receives
      rcases receives.report_cases with ⟨service, other, _⟩ | ⟨_, last, same, _, remembered, _⟩
      · cases other
      · cases same
        exact absurd ((remembered?_after responder before name last).mp remembered) (never last)

/-! ## Names and categories -/

/-- The name is a full name under the service type of the category. -/
def Names (category : Category) (name : String) : Prop :=
  ∃ instanceName serviceType, category.serviceType? = some serviceType ∧ name = fullName instanceName serviceType

/-- An event that names a service names it under the service type of the channel's category. -/
def Happening.Proper : Happening → Prop
  | .arrival listener (.event (.resolved service)) => Names listener.category service.fullName
  | .arrival listener (.event (.removed name)) => Names listener.category name
  | _ => True

/-- Whatever the instance is called, no full name is one under two service types. -/
theorem category_unique {left right : Category} {name : String} (first : Names left name) (second : Names right name) :
    left = right := by
  obtain ⟨instanceName, serviceType, announced, rfl⟩ := first
  obtain ⟨otherName, otherType, otherAnnounced, same⟩ := second
  have same : instanceName.toList ++ '.' :: serviceType.toList = otherName.toList ++ '.' :: otherType.toList := by
    simpa [fullName] using congrArg String.toList same
  -- Of two endings of one text the shorter is an ending of the longer.
  have nested := List.suffix_or_suffix_of_suffix (List.suffix_append instanceName.toList ('.' :: serviceType.toList))
    (same ▸ List.suffix_append otherName.toList ('.' :: otherType.toList))
  revert nested
  cases left <;> cases right <;> simp only [Category.serviceType?, Option.some.injEq, reduceCtorEq] at announced otherAnnounced
    <;> subst announced otherAnnounced <;> decide

/-- What is remembered under a name is of the category under whose service type the name is. -/
theorem category_of_sighted {responder : Responder} {happenings : List Happening} {name : String} {sighting : Sighting}
    {category : Category} (proper : ∀ happening ∈ happenings, happening.Proper) (names : Names category name)
    (sighted : Sighted (History.after responder happenings).rounds name sighting) : sighting.category = category := by
  obtain ⟨listener, service, member, rfl, found⟩ := resolved_of_sighted sighted
  rw [(live_of_sighting? found).2]
  exact category_unique (proper _ member) names

end Discovery.Mdns
