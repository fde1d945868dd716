import Discovery.Mdns.Browser
import Mathlib.Data.List.Basic
import Mathlib.Data.List.Induction
import Mathlib.Data.List.Nodup
/-!
# Browses and their channels

The browser takes up one thing after the other: a scan request, or what arrives on a channel. What has happened to it is
a history: the calls it has made with their answers, and one round for everything it has taken up.

The generation of a category is the number of browses that the history shows to have succeeded. The channels that are
listened to are numbered by generations, each at most once, so of the channels of one category only the newest counts;
anything on another leaves no trace but that the channel is given up, and a channel that has been given up is not
listened to again.
-/
namespace Discovery.Mdns

/-- What the browser takes up. A responder may answer differently every time. -/
inductive Happening where
  | scan (responder : Responder) (category : Category)
  | arrival (listener : Listener) (arrival : Arrival)

abbrev Answered := List (Call × Except String Unit)

/-- Calls with the answers that a responder gives to them. -/
def Responder.answered (responder : Responder) (calls : List Call) : Answered :=
  calls.map fun call => (call, responder call)

/-- What the browser did about a happening. -/
structure Round where
  happening : Happening
  /-- It arrived on the channel of the newest browse, and that channel was listened to. -/
  current : Bool
  calls : Answered
  report : Option Sighting

structure History where
  browser : Browser
  calls : Answered
  rounds : List Round

namespace Browser

/-- The channel is listened to, and it is the one of the newest browse of its category. -/
def hears (browser : Browser) (listener : Listener) : Bool :=
  listener ∈ browser.listeners && browser.isCurrent listener

def serve (browser : Browser) (happening : Happening) : Browser × Round :=
  match happening with
  | .scan responder category =>
    let browsing := browser.restart responder category
    (browsing.browser, ⟨happening, false, responder.answered browsing.calls, none⟩)
  | .arrival listener arrival =>
    let (next, report) := browser.receive listener arrival
    (next, ⟨happening, browser.hears listener, [], report⟩)

def run (browser : Browser) (happenings : List Happening) : Browser :=
  happenings.foldl (fun browser happening => (browser.serve happening).1) browser

end Browser

namespace History

def start (responder : Responder) : History :=
  let browsing := Browser.empty.startAll responder
  ⟨browsing.browser, responder.answered browsing.calls, []⟩

def next (history : History) (happening : Happening) : History :=
  let (browser, round) := history.browser.serve happening
  ⟨browser, history.calls ++ round.calls, history.rounds ++ [round]⟩

/-- What has come of a browser that was started with a responder. -/
def after (responder : Responder) (happenings : List Happening) : History :=
  happenings.foldl next (start responder)

theorem after_concat (responder : Responder) (happenings : List Happening) (happening : Happening) :
    after responder (happenings ++ [happening]) = (after responder happenings).next happening := by
  simp [after]

end History

/-! ## What arrives on a channel -/

/-- What the browser does about something that arrives on a channel. -/
inductive Receives (browser : Browser) (listener : Listener) : Arrival → Browser → Option Sighting → Prop
  | unheard {arrival : Arrival} : listener ∉ browser.listeners → Receives browser listener arrival browser none
  | outdated {arrival : Arrival} : listener ∈ browser.listeners → browser.isCurrent listener = false →
      Receives browser listener arrival (browser.ignore listener) none
  | disconnected : browser.hears listener = true →
      Receives browser listener .disconnected (browser.ignore listener) none
  | resolved {service : Announcement} {sighting : Sighting} : browser.hears listener = true →
      service.sighting? listener.category = some sighting →
      Receives browser listener (.event (.resolved service)) (browser.remember service.fullName sighting) (some sighting)
  | unplaced {service : Announcement} : browser.hears listener = true →
      service.sighting? listener.category = none →
      Receives browser listener (.event (.resolved service)) browser none
  | removed {name : String} {sighting : Sighting} : browser.hears listener = true →
      browser.remembered? name = some sighting →
      Receives browser listener (.event (.removed name)) (browser.forget name) (some { sighting with live := false })
  | unknown {name : String} : browser.hears listener = true → browser.remembered? name = none →
      Receives browser listener (.event (.removed name)) browser none
  | passing {event : Event} : browser.hears listener = true → (∀ service, event ≠ .resolved service) →
      (∀ name, event ≠ .removed name) → Receives browser listener (.event event) browser none

variable {browser next : Browser} {listener : Listener} {arrival : Arrival} {report : Option Sighting}

theorem receives_receive (browser : Browser) (listener : Listener) (arrival : Arrival) :
    Receives browser listener arrival (browser.receive listener arrival).1 (browser.receive listener arrival).2 := by
  unfold Browser.receive
  by_cases listened : listener ∈ browser.listeners
  · cases current : browser.isCurrent listener with
    | false => simpa [listened] using Receives.outdated listened current
    | true =>
      have heard : browser.hears listener = true := by simp [Browser.hears, listened, current]
      simp only [listened, not_true_eq_false, if_false, Bool.not_true, Bool.false_eq_true]
      cases arrival with
      | disconnected => exact .disconnected heard
      | event event =>
        cases event with
        | resolved service =>
          simp only [Browser.apply]
          cases found : service.sighting? listener.category with
          | some sighting => exact .resolved heard found
          | none => exact .unplaced heard found
        | removed name =>
          simp only [Browser.apply]
          cases found : browser.remembered? name with
          | some sighting => exact .removed heard found
          | none => exact .unknown heard found
        | found name => exact .passing heard (by simp) (by simp)
        | searchStarted => exact .passing heard (by simp) (by simp)
        | searchStopped => exact .passing heard (by simp) (by simp)
  · simpa [listened] using Receives.unheard listened

theorem receive_of_hears (heard : browser.hears listener = true) (event : Event) :
    browser.receive listener (.event event) = browser.apply listener.category event := by
  obtain ⟨listened, current⟩ : listener ∈ browser.listeners ∧ browser.isCurrent listener = true := by
    simpa [Browser.hears] using heard
  simp [Browser.receive, listened, current]

namespace Receives

theorem generation (receives : Receives browser listener arrival next report) :
    next.generation = browser.generation := by
  cases receives <;> rfl

theorem sublist_listeners (receives : Receives browser listener arrival next report) :
    next.listeners.Sublist browser.listeners := by
  cases receives with
  | outdated | disconnected => exact List.filter_sublist
  | _ => exact List.Sublist.refl _

/-- Only what arrives on the channel of a newest browse is heeded. From any other nothing follows but that it is not
listened to any more. -/
theorem of_outdated (receives : Receives browser listener arrival next report)
    (outdated : browser.isCurrent listener = false) :
    next.resolved = browser.resolved ∧ report = none ∧ listener ∉ next.listeners := by
  have unheard : browser.hears listener = false := by simp [Browser.hears, outdated]
  cases receives with
  | unheard absent => exact ⟨rfl, rfl, absent⟩
  | outdated => exact ⟨rfl, rfl, by simp [Browser.ignore]⟩
  | disconnected heard | resolved heard | unplaced heard | removed heard | unknown heard | passing heard =>
    simp [unheard] at heard

end Receives

/-! ## Starting a browse -/

/-- What starting a browse does: nothing for a category that is not announced, and otherwise one call. -/
inductive Starts (browser : Browser) (responder : Responder) (category : Category) : Browser → List Call → Prop
  | unannounced : category.serviceType? = none → Starts browser responder category browser []
  | begun {serviceType : String} : category.serviceType? = some serviceType →
      responder (.browse serviceType) = .ok () →
      Starts browser responder category (browser.advance category) [.browse serviceType]
  | failed {serviceType reason : String} : category.serviceType? = some serviceType →
      responder (.browse serviceType) = .error reason →
      Starts browser responder category browser [.browse serviceType]

theorem starts_start (browser : Browser) (responder : Responder) (category : Category) :
    Starts browser responder category (browser.start responder category).browser
      (browser.start responder category).calls := by
  unfold Browser.start
  split
  next announced => exact .unannounced announced
  next serviceType announced =>
    dsimp only
    split
    next answer => exact .begun announced answer
    next reason answer => exact .failed announced answer

/-! ## Generations -/

/-- The number of successful browses of a category. -/
def browses (calls : Answered) (category : Category) : Nat :=
  calls.countP fun made => some made.1 = category.serviceType?.map Call.browse ∧ made.2.isOk

@[simp] theorem browses_append (earlier later : Answered) (category : Category) :
    browses (earlier ++ later) category = browses earlier category + browses later category :=
  List.countP_append

theorem eq_of_serviceType? {left right : Category} {serviceType : String}
    (first : left.serviceType? = some serviceType) (second : right.serviceType? = some serviceType) : left = right := by
  have same := first.trans second.symm
  cases left <;> cases right <;> simp [Category.serviceType?] at first same ⊢

/-- Generations count successful browses, and channels of no later generation are listened to, each once. -/
structure Numbered (browser : Browser) (calls : Answered) : Prop where
  counts : ∀ category, browser.generation category = browses calls category
  bounded : ∀ listener ∈ browser.listeners, listener.generation ≤ browser.generation listener.category
  once : browser.listeners.Nodup

namespace Numbered

variable {calls : Answered}

theorem empty : Numbered .empty [] := ⟨fun _ => rfl, by simp [Browser.empty], by simp [Browser.empty]⟩

theorem append (numbered : Numbered browser calls) {more : Answered}
    (fruitless : ∀ category, browses more category = 0) : Numbered browser (calls ++ more) :=
  ⟨fun category => by rw [browses_append, fruitless, numbered.counts, Nat.add_zero], numbered.bounded, numbered.once⟩

theorem advance (numbered : Numbered browser calls) {category : Category} {more : Answered}
    (counted : ∀ other, browses more other = if other = category then 1 else 0) :
    Numbered (browser.advance category) (calls ++ more) := by
  obtain ⟨counts, bounded, once⟩ := numbered
  refine ⟨fun other => ?_, fun listener member => ?_, ?_⟩
  · rw [browses_append, counted, ← counts]
    by_cases same : other = category <;> simp [Browser.advance, same]
  · rcases List.mem_append.mp member with old | new
    · have before := bounded listener old
      by_cases same : listener.category = category
      · rw [same] at before
        simp only [Browser.advance, same, if_true]
        omega
      · simpa [Browser.advance, same] using before
    · rw [List.mem_singleton.mp new]
      simp [Browser.advance]
  · -- The new channel is of a generation that no other has reached.
    refine List.nodup_append.mpr ⟨once, by simp, fun old member new only => ?_⟩
    rintro rfl
    have before := bounded old member
    rw [List.mem_singleton.mp only] at before
    simp only at before
    omega

theorem starts (numbered : Numbered browser calls) {responder : Responder} {category : Category} {made : List Call}
    (starts : Starts browser responder category next made) : Numbered next (calls ++ responder.answered made) := by
  cases starts with
  | unannounced => simpa [Responder.answered] using numbered
  | @begun serviceType announced answer =>
    refine numbered.advance fun other => ?_
    by_cases same : other = category
    · simp [browses, Responder.answered, same, announced, answer, Except.isOk, Except.toBool]
    · -- The call names the service type of this category and of no other.
      have different : other.serviceType? ≠ some serviceType := fun equal => same (eq_of_serviceType? equal announced)
      cases type : other.serviceType? with
      | none => simp [browses, Responder.answered, same, type]
      | some otherType =>
        have apart : serviceType ≠ otherType := fun equal => different (equal ▸ type)
        simp [browses, Responder.answered, same, type, apart]
  | failed _ answer =>
    refine numbered.append fun other => ?_
    simp [browses, Responder.answered, answer, Except.isOk, Except.toBool]

theorem restart (numbered : Numbered browser calls) (responder : Responder) (category : Category) :
    Numbered (browser.restart responder category).browser
      (calls ++ responder.answered (browser.restart responder category).calls) := by
  unfold Browser.restart
  cases category.serviceType? with
  | none => simpa [Responder.answered] using numbered
  | some serviceType =>
    have stopped : Numbered browser (calls ++ responder.answered [.stopBrowse serviceType]) := by
      refine numbered.append fun other => ?_
      cases type : other.serviceType? <;> simp [browses, Responder.answered, type]
    simpa [Responder.answered] using stopped.starts (starts_start browser responder category)

theorem receives (numbered : Numbered browser calls) (receives : Receives browser listener arrival next report) :
    Numbered next calls := by
  have kept := receives.sublist_listeners
  refine ⟨fun category => ?_, fun other member => ?_, numbered.once.sublist kept⟩
  · rw [receives.generation, numbered.counts]
  · rw [receives.generation]
    exact numbered.bounded other (kept.subset member)

theorem serve (numbered : Numbered browser calls) (happening : Happening) :
    Numbered (browser.serve happening).1 (calls ++ (browser.serve happening).2.calls) := by
  cases happening with
  | scan responder category => exact numbered.restart responder category
  | arrival listener arrival =>
    simpa [Browser.serve] using numbered.receives (receives_receive browser listener arrival)

end Numbered

theorem numbered_start (responder : Responder) :
    Numbered (History.start responder).browser (History.start responder).calls := by
  -- Whatever has been started so far, starting one more browse keeps the numbers.
  refine List.foldlRecOn Category.concrete _
    (motive := fun done : Browsing => Numbered done.browser (responder.answered done.calls)) .empty ?_
  intro done numbered category _
  simpa [Responder.answered] using numbered.starts (starts_start done.browser responder category)

theorem numbered_after (responder : Responder) (happenings : List Happening) :
    Numbered (History.after responder happenings).browser (History.after responder happenings).calls := by
  induction happenings using List.reverseRecOn with
  | nil => exact numbered_start responder
  | append_singleton happenings happening ih =>
    rw [History.after_concat]
    exact ih.serve happening

/-! ## Receptions -/

/-- The pending receptions after one of them has completed. It is taken out, and a new one on the same channel is put
behind the others if the channel is the newest and still open. -/
def Browser.requeued (browser : Browser) (listener : Listener) (arrival : Arrival) : List Listener :=
  let others := browser.listeners.erase listener
  if browser.isCurrent listener ∧ arrival ≠ .disconnected then others ++ [listener] else others

/-- Since no channel is listened to twice, giving it up means not to put its reception back. -/
theorem perm_requeued (once : browser.listeners.Nodup) (listened : listener ∈ browser.listeners) (arrival : Arrival) :
    (browser.receive listener arrival).1.listeners.Perm (browser.requeued listener arrival) := by
  have without : browser.listeners.erase listener = browser.listeners.filter (· ≠ listener) := by
    rw [once.erase_eq_filter]
    exact List.filter_congr fun other _ => by rw [Bool.eq_iff_iff]; simp
  have restored : browser.listeners.Perm (browser.listeners.erase listener ++ [listener]) :=
    (List.perm_cons_erase listened).trans (List.perm_append_singleton listener _).symm
  have receives := receives_receive browser listener arrival
  generalize (browser.receive listener arrival).1 = next, (browser.receive listener arrival).2 = report at receives ⊢
  unfold Browser.requeued
  cases receives with
  | unheard absent => exact absurd listened absent
  | outdated _ outdated => simp [outdated, without, Browser.ignore]
  | disconnected => simp [without, Browser.ignore]
  | resolved heard | unplaced heard | removed heard | unknown heard | passing heard =>
    have current : browser.isCurrent listener = true := by
      rw [Browser.hears, Bool.and_eq_true] at heard
      exact heard.2
    simpa [current, Browser.remember, Browser.forget] using restored

/-! ## Channels given up -/

/-- The channel is of an earlier browse, and it is not listened to. -/
def Abandoned (browser : Browser) (listener : Listener) : Prop :=
  listener.generation < browser.generation listener.category ∧ listener ∉ browser.listeners

theorem Abandoned.starts (abandoned : Abandoned browser listener) {responder : Responder} {category : Category}
    {made : List Call} (starts : Starts browser responder category next made) : Abandoned next listener := by
  obtain ⟨earlier, unheard⟩ := abandoned
  cases starts with
  | unannounced | failed => exact ⟨earlier, unheard⟩
  | begun =>
    refine ⟨?_, fun member => ?_⟩
    · by_cases same : listener.category = category
      · rw [same] at earlier
        simp only [Browser.advance, same, if_true]
        omega
      · simpa [Browser.advance, same] using earlier
    · -- The channel that is added is of a later generation.
      rcases List.mem_append.mp member with old | new
      · exact unheard old
      · rw [List.mem_singleton.mp new] at earlier
        simp only at earlier
        omega

theorem Abandoned.serve (abandoned : Abandoned browser listener) (happening : Happening) :
    Abandoned (browser.serve happening).1 listener := by
  cases happening with
  | scan responder category =>
    simp only [Browser.serve, Browser.restart]
    cases category.serviceType? with
    | none => exact abandoned
    | some serviceType => exact abandoned.starts (starts_start browser responder category)
  | arrival other arrival =>
    have receives := receives_receive browser other arrival
    exact ⟨receives.generation ▸ abandoned.1, fun member => abandoned.2 (receives.sublist_listeners.subset member)⟩

theorem Abandoned.run (abandoned : Abandoned browser listener) (happenings : List Happening) :
    Abandoned (browser.run happenings) listener :=
  List.foldlRecOn happenings _ (motive := fun browser => Abandoned browser listener) abandoned
    fun _ abandoned happening _ => abandoned.serve happening

/-- The generation of an announced category is the number of its successful browses. Receptions are pending on channels
of no later generation, on the newest one at most once, and one that has completed is put back on the newest only. What
arrives on the channel of an earlier browse is neither heeded nor reported, and that channel is never listened to again,
whatever the browser takes up later. -/
theorem generations_count_browses (responder : Responder) (happenings : List Happening) {category : Category}
    {serviceType : String} (announced : category.serviceType? = some serviceType) :
    let past := History.after responder happenings
    let browser := past.browser
    browser.generation category =
        past.calls.countP (fun made => made.1 = .browse serviceType ∧ made.2.isOk = true) ∧
    (∀ listener ∈ browser.listeners, listener.category = category →
      listener.generation ≤ browser.generation category) ∧
    browser.listeners.countP (fun listener => listener.category = category ∧
      listener.generation = browser.generation category) ≤ 1 ∧
    (∀ listener ∈ browser.listeners, ∀ arrival,
      (browser.receive listener arrival).1.listeners.Perm (browser.requeued listener arrival)) ∧
    ∀ generation < browser.generation category, ∀ arrival,
      let next := (browser.receive ⟨category, generation⟩ arrival).1
      next.resolved = browser.resolved ∧ next.generation = browser.generation ∧
      (browser.receive ⟨category, generation⟩ arrival).2 = none ∧
      ∀ later, ⟨category, generation⟩ ∉ (next.run later).listeners := by
  intro past browser
  obtain ⟨counts, bounded, once⟩ : Numbered browser past.calls := numbered_after responder happenings
  refine ⟨?_, fun listener member same => same ▸ bounded listener member, ?_,
    fun listener member arrival => perm_requeued once member arrival, fun generation earlier arrival => ?_⟩
  · rw [counts, browses]
    simp [announced]
  · -- There is only one channel of this category and generation.
    have only := List.nodup_iff_count_le_one.mp once ⟨category, browser.generation category⟩
    rw [List.count_eq_countP] at only
    refine Nat.le_trans (Nat.le_of_eq (List.countP_congr fun listener _ => ?_)) only
    obtain ⟨held, number⟩ := listener
    simp
  · have outdated : browser.isCurrent ⟨category, generation⟩ = false := by
      simp only [Browser.isCurrent, beq_eq_false_iff_ne]
      omega
    have receives := receives_receive browser ⟨category, generation⟩ arrival
    obtain ⟨resolved, unreported, unheard⟩ := receives.of_outdated outdated
    have abandoned : Abandoned (browser.receive ⟨category, generation⟩ arrival).1 ⟨category, generation⟩ :=
      ⟨by rwa [receives.generation], unheard⟩
    exact ⟨resolved, receives.generation, unreported, fun later => (abandoned.run later).2⟩

/-- A browse that is restarted while its channel is disconnected, then in vain, with an event on the channel before. -/
def interrupted : List Happening :=
  let obeys : Responder := fun _ => .ok ()
  let refuses : Responder := fun _ => .error "down"
  [.arrival ⟨.wled, 1⟩ .disconnected, .scan obeys .wled, .scan refuses .wled, .scan obeys .hue,
   .arrival ⟨.wled, 1⟩ (.event (.removed "desk._wled._tcp.local."))]

theorem generations_count_browses_interrupted :
    Category.wled.serviceType? = some "_wled._tcp.local." ∧
    (History.after (fun _ => .ok ()) interrupted).browser.generation .wled = 2 := by
  refine ⟨rfl, ?_⟩
  have announced : Category.wled.serviceType? = some "_wled._tcp.local." := rfl
  rw [(generations_count_browses (fun _ => .ok ()) interrupted announced).1]
  decide

end Discovery.Mdns
