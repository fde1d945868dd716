import Discovery.Proofs.Dispatcher.Lifecycle
/-!
# Requests to the browser

A dispatcher passes the requests for scans of announced families to the browser, through a channel that takes a request if
the browser is still there and a slot is free. At any time what the channel has taken is what the browser has received,
followed by what is still waiting or, once the browser has gone away, by what was waiting then. All other requests leave the
channel alone, and these requests leave the backend for serial ports alone.
-/
namespace Discovery

/-- The families whose scans are up to the browser. -/
def Category.browsed : List Category := [.hyperhdr, .wled, .hue]

/-- What happens around a dispatcher and its channel: a scan is requested on the host as it is then, the browser takes the
oldest request, the browser goes away, or the dispatcher is given up. -/
inductive Occurrence where
  | trigger (host : Host) (category : Category)
  | receive
  | hangUp
  | giveUp

/-- The announced family of which a scan is requested, if that is what happens. -/
def Occurrence.browsed? : Occurrence → Option Category
  | trigger _ category => if category ∈ Category.browsed then some category else none
  | receive | hangUp | giveUp => none

/-- How far the requests for the browser have got. -/
structure Passage (δ : Type) where
  /-- The dispatcher, until it is given up. -/
  dispatcher : Option (Dispatcher δ)
  requests : Channel Category
  /-- The requests that the channel has taken. -/
  taken : List Category
  /-- The requests that the browser has received. -/
  received : List Category
  /-- The requests that were waiting when the browser went away. -/
  lost : List Category

variable {δ : Type} [Device δ]

namespace Dispatcher

/-- The channel changes only by a request for an announced family that finds the browser there and a slot free. -/
theorem requests_trigger (dispatcher : Dispatcher δ) (requests : Channel Category) (host : Host) (category : Category) :
    (dispatcher.trigger requests host category).requests =
      if category ∈ Category.browsed ∧ requests.receiving = true ∧ requests.waiting.length < requests.capacity then
        { requests with waiting := requests.waiting ++ [category] }
      else requests := by
  have passed : (scanAnnounced requests category).1 =
      if requests.receiving = true ∧ requests.waiting.length < requests.capacity then
        { requests with waiting := requests.waiting ++ [category] }
      else requests := by
    unfold scanAnnounced
    split
    next sent accepted =>
      obtain ⟨room, same⟩ := Channel.send_eq_ok_iff.mp accepted
      rw [if_pos room, same]
    next error refused =>
      rw [if_neg]
      intro room
      have appended := Eq.refl { requests with waiting := requests.waiting ++ [category] }
      have accepted := Channel.send_eq_ok_iff.mpr (And.intro room appended)
      rw [refused] at accepted
      cases accepted
  cases category with
  | hyperhdr | wled | hue => simpa [trigger, Category.browsed] using passed
  | pico | esp32s2 | esp | serial | unknown => rfl

/-- A request for an announced family that the channel does not take is reported, and that is all. -/
theorem trigger_of_refused (dispatcher : Dispatcher δ) {requests : Channel Category} (host : Host) {category : Category}
    (browsed : category ∈ Category.browsed)
    (refused : ¬ (requests.receiving = true ∧ requests.waiting.length < requests.capacity)) :
    dispatcher.trigger requests host category =
      ⟨dispatcher, requests, [], .ofLogs [.debug ("Scan requested for " ++ category.label),
        .warn ("Failed to request " ++ category.label ++ " scan: " ++
          (if requests.receiving then SendError.full else .closed).message)]⟩ := by
  have handedBack : requests.send category = .error (if requests.receiving then .full else .closed) := by
    unfold Channel.send
    cases receiving : requests.receiving with
    | false => rfl
    | true =>
      have full : requests.capacity ≤ requests.waiting.length := by
        rw [receiving] at refused
        simpa using refused
      simp [full]
  cases category with
  | hyperhdr | wled | hue => simp only [trigger, scanAnnounced, handedBack]; rfl
  | pico | esp32s2 | esp | serial | unknown => simp [Category.browsed] at browsed

/-- A request for a scan of the category is passed on: the backend for serial ports is run, or the browser is asked as soon
as its channel takes the request. -/
def Forwards (category : Category) : Prop :=
  ∀ {δ : Type} [Device δ] (dispatcher : Dispatcher δ) (requests : Channel Category) (host : Host),
    let done := dispatcher.trigger requests host category
    (done.dispatcher = (dispatcher.scanSerial host).1 ∧ done.calls = (dispatcher.scanSerial host).2.1) ∨
      ∀ asked, requests.send category = .ok asked → done.requests = asked

/-- Of the other categories nothing comes of a request. -/
theorem forwards_iff {category : Category} : Forwards category ↔ category = .serial ∨ category ∈ Category.browsed := by
  constructor
  · intro forwards
    -- A dispatcher that has not been used is changed by a scan of serial ports, and an empty channel by a request.
    let host : Host := ⟨.listed [], fun _ => .ok none, fun _ => .ok ()⟩
    have passed := forwards (unused ([] : Registry FileOutput) .null) (.empty 1) host
    cases category with
    | serial => exact .inl rfl
    | hyperhdr | wled | hue => exact .inr (by decide)
    | pico | esp32s2 | esp | unknown =>
      rcases passed with ⟨scanned, _⟩ | asked
      · cases scanned
      · cases asked _ rfl
  · rintro (rfl | browsed) δ _ dispatcher requests host
    · exact .inl ⟨rfl, rfl⟩
    · refine .inr fun asked sent => ?_
      obtain ⟨room, rfl⟩ := Channel.send_eq_ok_iff.mp sent
      exact (dispatcher.requests_trigger requests host category).trans (if_pos ⟨browsed, room⟩)

end Dispatcher

namespace Passage

def start (dispatcher : Dispatcher δ) (slots : Nat) : Passage δ := ⟨some dispatcher, .empty slots, [], [], []⟩

def meet (passage : Passage δ) : Occurrence → Passage δ
  | .trigger host category =>
    match passage.dispatcher with
    | none => passage
    | some dispatcher =>
      let done := dispatcher.trigger passage.requests host category
      { passage with
        dispatcher := some done.dispatcher
        requests := done.requests
        -- Whatever stands behind those that have been waiting is new.
        taken := passage.taken ++ done.requests.waiting.drop passage.requests.waiting.length }
  | .receive =>
    match passage.requests.receive? with
    | none => passage
    | some (category, requests) => { passage with requests, received := passage.received ++ [category] }
  | .hangUp =>
    { passage with requests := passage.requests.close, lost := passage.lost ++ passage.requests.waiting }
  | .giveUp => { passage with dispatcher := none }

def run (passage : Passage δ) (occurrences : List Occurrence) : Passage δ := occurrences.foldl meet passage

variable {passage : Passage δ} {slots : Nat}

/-- The channel takes another request. -/
def Admits (passage : Passage δ) : Prop :=
  passage.requests.receiving = true ∧ passage.requests.waiting.length < passage.requests.capacity

theorem meet_trigger_of_admitted {dispatcher : Dispatcher δ} (held : passage.dispatcher = some dispatcher) (host : Host)
    {category : Category} (browsed : category ∈ Category.browsed) (admits : passage.Admits) :
    passage.meet (.trigger host category) =
      { passage with
        dispatcher := some (dispatcher.trigger passage.requests host category).dispatcher
        requests := { passage.requests with waiting := passage.requests.waiting ++ [category] }
        taken := passage.taken ++ [category] } := by
  have passed := dispatcher.requests_trigger passage.requests host category
  rw [if_pos ⟨browsed, admits⟩] at passed
  simp only [meet, held, passed, List.drop_left]

theorem meet_trigger_of_other {dispatcher : Dispatcher δ} (held : passage.dispatcher = some dispatcher) (host : Host)
    {category : Category} (other : ¬ (category ∈ Category.browsed ∧ passage.Admits)) :
    passage.meet (.trigger host category) =
      { passage with dispatcher := some (dispatcher.trigger passage.requests host category).dispatcher } := by
  have untouched : (dispatcher.trigger passage.requests host category).requests = passage.requests :=
    (dispatcher.requests_trigger passage.requests host category).trans (if_neg other)
  simp only [meet, held, untouched, List.drop_length, List.append_nil]

theorem meet_trigger_of_refused {dispatcher : Dispatcher δ} (held : passage.dispatcher = some dispatcher) (host : Host)
    {category : Category} (browsed : category ∈ Category.browsed) (refused : ¬ passage.Admits) :
    passage.meet (.trigger host category) = passage := by
  rw [meet_trigger_of_other held host fun admitted => refused admitted.2,
    dispatcher.trigger_of_refused host browsed refused, ← held]

/-! ## The books -/

/-- Every request that has been taken is in one place, in the order of taking. -/
structure Balanced (passage : Passage δ) (slots : Nat) : Prop where
  capacity : passage.requests.capacity = slots
  bounded : passage.requests.waiting.length ≤ slots
  taken : passage.received ++ (passage.requests.waiting ++ passage.lost) = passage.taken
  kept : passage.requests.receiving = true → passage.lost = []
  left : passage.requests.receiving = false → passage.requests.waiting = []

omit [Device δ] in
theorem balanced_start (dispatcher : Dispatcher δ) (slots : Nat) : (start dispatcher slots).Balanced slots :=
  ⟨rfl, Nat.zero_le _, rfl, fun _ => rfl, fun _ => rfl⟩

theorem Balanced.meet (balanced : passage.Balanced slots) (occurrence : Occurrence) :
    (passage.meet occurrence).Balanced slots := by
  obtain ⟨capacity, bounded, taken, kept, left⟩ := balanced
  cases occurrence with
  | trigger host category =>
    cases held : passage.dispatcher with
    | none => simpa only [Passage.meet, held] using Balanced.mk capacity bounded taken kept left
    | some dispatcher =>
      by_cases admitted : category ∈ Category.browsed ∧ passage.Admits
      · obtain ⟨browsed, receiving, room⟩ := admitted
        rw [meet_trigger_of_admitted held host browsed ⟨receiving, room⟩]
        refine ⟨capacity, ?_, ?_, kept, fun closed => ?_⟩
        · simpa using capacity ▸ room
        · simp [← taken, kept receiving]
        · simp [receiving] at closed
      · rw [meet_trigger_of_other held host admitted]
        exact ⟨capacity, bounded, taken, kept, left⟩
  | receive =>
    cases waiting : passage.requests.waiting with
    | nil => simpa only [Passage.meet, Channel.receive?, waiting] using Balanced.mk capacity bounded taken kept left
    | cons category rest =>
      rw [waiting] at bounded taken left
      simp only [Passage.meet, Channel.receive?, waiting]
      refine ⟨capacity, Nat.le_of_succ_le bounded, ?_, kept, fun closed => ?_⟩
      · simpa using taken
      · cases left closed
  | hangUp =>
    refine ⟨capacity, Nat.zero_le _, ?_, (nomatch ·), fun _ => rfl⟩
    -- What was waiting joins what was lost, and one of the two was empty.
    cases receiving : passage.requests.receiving with
    | true => simp [Passage.meet, Channel.close, ← taken, kept receiving]
    | false => simp [Passage.meet, Channel.close, ← taken, left receiving]
  | giveUp => exact ⟨capacity, bounded, taken, kept, left⟩

theorem Balanced.run (balanced : passage.Balanced slots) (occurrences : List Occurrence) :
    (passage.run occurrences).Balanced slots := by
  induction occurrences generalizing passage with
  | nil => exact balanced
  | cons occurrence rest ih => exact ih (balanced.meet occurrence)

/-- A browser that stays and goes on receiving ends up with everything that has been taken, and with nothing else. -/
theorem Balanced.received_of_emptied (balanced : passage.Balanced slots) (receiving : passage.requests.receiving = true)
    {count : Nat} (enough : passage.requests.waiting.length ≤ count) :
    (passage.run (List.replicate count .receive)).received = passage.taken := by
  -- By induction on the receptions. Each takes the oldest request out of the channel, until there is none.
  induction count generalizing passage with
  | zero =>
    have empty : passage.requests.waiting = [] := List.length_eq_zero_iff.mp (Nat.le_zero.mp enough)
    have taken := balanced.taken
    rw [empty, balanced.kept receiving] at taken
    simpa [Passage.run] using taken
  | succ count ih =>
    have step := balanced.meet .receive
    have next : passage.run (List.replicate (count + 1) .receive) =
        (passage.meet .receive).run (List.replicate count .receive) := rfl
    rw [next]
    cases waiting : passage.requests.waiting with
    | nil =>
      have unmoved : passage.meet .receive = passage := by simp only [Passage.meet, Channel.receive?, waiting]
      rw [unmoved]
      exact ih balanced receiving (by simp [waiting])
    | cons category rest =>
      simp only [Passage.meet, Channel.receive?, waiting] at step ⊢
      rw [waiting] at enough
      exact ih step receiving (Nat.le_of_succ_le_succ enough)

/-! ## What is taken -/

theorem sublist_taken_meet (passage : Passage δ) (occurrence : Occurrence) :
    (passage.meet occurrence).taken.Sublist (passage.taken ++ occurrence.browsed?.toList) := by
  have unmoved : passage.taken.Sublist (passage.taken ++ occurrence.browsed?.toList) := List.sublist_append_left _ _
  cases occurrence with
  | receive =>
    simp only [meet]
    split <;> exact unmoved
  | hangUp | giveUp => exact unmoved
  | trigger host category =>
    cases held : passage.dispatcher with
    | none => simpa only [meet, held] using unmoved
    | some dispatcher =>
      by_cases admitted : category ∈ Category.browsed ∧ passage.Admits
      · rw [meet_trigger_of_admitted held host admitted.1 admitted.2, Occurrence.browsed?, if_pos admitted.1]
        exact List.Sublist.refl _
      · rw [meet_trigger_of_other held host admitted]
        exact unmoved

/-- Only requests for announced families are taken, in the order in which they are made. -/
theorem sublist_taken_run (passage : Passage δ) (occurrences : List Occurrence) :
    (passage.run occurrences).taken.Sublist (passage.taken ++ occurrences.filterMap Occurrence.browsed?) := by
  induction occurrences generalizing passage with
  | nil => simp [run]
  | cons occurrence rest ih =>
    have listed : (occurrence :: rest).filterMap Occurrence.browsed? =
        occurrence.browsed?.toList ++ rest.filterMap Occurrence.browsed? := by
      rw [List.filterMap_cons]
      cases occurrence.browsed? <;> rfl
    rw [listed, ← List.append_assoc]
    exact (ih (passage.meet occurrence)).trans ((passage.sublist_taken_meet occurrence).append_right _)

/-- Whatever happens around a dispatcher, what its channel has taken is what the browser has received, then what waits, and
then what was waiting when the browser went away; a browser that stays to receive all of it receives exactly that. The
channel takes requests for announced families only, in their order, each if the browser is there and a slot is free. A
request that is not taken does nothing but be reported. Requests for serial ports, boards and the sentinel leave the channel
alone, and all but those for serial ports leave the backend alone. -/
theorem browser_receives_what_is_taken (dispatcher : Dispatcher δ) (slots : Nat) (occurrences : List Occurrence) :
    let passage := (start dispatcher slots).run occurrences
    let channel := passage.requests
    passage.received ++ (channel.waiting ++ passage.lost) = passage.taken ∧
    (channel.receiving = true → passage.lost = [] ∧ ∀ count, channel.waiting.length ≤ count →
      (passage.run (List.replicate count .receive)).received = passage.taken) ∧
    (channel.receiving = false → channel.waiting = []) ∧
    passage.taken.Sublist (occurrences.filterMap Occurrence.browsed?) ∧
    channel.waiting.length ≤ slots ∧
    ∀ held ∈ passage.dispatcher, ∀ host category,
      let done := held.trigger channel host category
      let next := passage.meet (.trigger host category)
      (category ∈ Category.browsed →
        (next.taken = passage.taken ++ [category] ↔ channel.receiving = true ∧ channel.waiting.length < slots) ∧
        (next.taken ≠ passage.taken ++ [category] → next = passage ∧
          done = ⟨held, channel, [], .ofLogs [.debug ("Scan requested for " ++ category.label),
            .warn ("Failed to request " ++ category.label ++ " scan: " ++
              (if channel.receiving then SendError.full else .closed).message)]⟩)) ∧
      (category ∉ Category.browsed → done.requests = channel ∧ next.taken = passage.taken) ∧
      (category ≠ .serial → done.dispatcher = held ∧ next.dispatcher = passage.dispatcher) := by
  intro passage channel
  have balanced : passage.Balanced slots := (balanced_start dispatcher slots).run occurrences
  refine ⟨balanced.taken, fun receiving => ⟨balanced.kept receiving, fun count => balanced.received_of_emptied receiving⟩,
    balanced.left, sublist_taken_run (start dispatcher slots) occurrences, balanced.bounded, ?_⟩
  intro held member host category done next
  have admits_iff : passage.Admits ↔ channel.receiving = true ∧ channel.waiting.length < slots := by
    rw [← balanced.capacity]
    exact Iff.rfl
  have present : passage.dispatcher = some held := member
  have longer : passage.taken ≠ passage.taken ++ [category] := by simp
  refine ⟨fun browsed => ?_, fun foreign => ?_, fun other => ?_⟩
  · rw [← admits_iff]
    by_cases admits : passage.Admits
    · have taken : next.taken = passage.taken ++ [category] :=
        congrArg Passage.taken (meet_trigger_of_admitted present host browsed admits)
      exact ⟨iff_of_true taken admits, fun untaken => absurd taken untaken⟩
    · have unmoved : next = passage := meet_trigger_of_refused present host browsed admits
      exact ⟨iff_of_false (unmoved ▸ longer) admits, fun _ => ⟨unmoved, held.trigger_of_refused host browsed admits⟩⟩
  · have refused : ¬ (category ∈ Category.browsed ∧ passage.Admits) := fun admitted => foreign admitted.1
    have moved : next = { passage with dispatcher := some done.dispatcher } := meet_trigger_of_other present host refused
    exact ⟨(held.requests_trigger channel host category).trans (if_neg refused), by rw [moved]⟩
  · have same := (Dispatcher.trigger_of_other other held channel host).1
    have kept : next.dispatcher = some done.dispatcher := by simp only [next, meet, present, done, channel]
    exact ⟨same, by rw [kept, same, present]⟩

end Passage

end Discovery
