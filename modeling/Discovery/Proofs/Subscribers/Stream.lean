import Discovery.Proofs.Subscribers.Draining
/-!
# Clients on the stream of changes

The worker sends what it announces one change after the other before it goes on, and a client on the stream receives what
there is for it at any time in between. The stream says nothing of changes that the channel has lost before the client came
to them; it passes over them to the oldest that is kept. So what the client knows of a category is right once it has received
all there is, unless it is just the last change of the category that has been passed over.
-/
namespace Discovery

open Mdns (Wired WiredEvent)
open Time (Span)

/-! ## What a stream is past -/

section
variable {α : Type}

/-- How many messages a subscriber is past after this. -/
def Reception.count : Reception α → Nat
  | message _ => 1
  | lagged lost => lost

def passed (receptions : List (Reception α)) : Nat := (receptions.map Reception.count).sum

@[simp] theorem passed_append (receptions later : List (Reception α)) :
    passed (receptions ++ later) = passed receptions + passed later := by
  simp [passed]

/-- The message of this number is among those that are reported as lost. -/
def PassesOver (receptions : List (Reception α)) (number : Nat) : Prop :=
  ∃ before lost after, receptions = before ++ .lagged lost :: after ∧ passed before ≤ number ∧ number < passed before + lost

theorem PassesOver.append {receptions : List (Reception α)} {number : Nat} (skipped : PassesOver receptions number)
    (later : List (Reception α)) : PassesOver (receptions ++ later) number := by
  obtain ⟨before, lost, after, split, reached, within⟩ := skipped
  refine ⟨before, lost, after ++ later, ?_, reached, within⟩
  rw [split, List.append_assoc, List.cons_append]

theorem PassesOver.lt_of_cons {lost number : Nat} {messages : List α}
    (skipped : PassesOver (.lagged lost :: messages.map .message) number) : number < lost := by
  obtain ⟨before, other, after, split, _, within⟩ := skipped
  cases before with
  | nil =>
    cases split
    simpa [passed] using within
  | cons first rest =>
    have member : Reception.lagged other ∈ messages.map Reception.message := by
      rw [(List.cons.inj split).2]
      exact List.mem_append_right _ List.mem_cons_self
    simp at member

/-- These receptions are what has become of these messages. -/
inductive Accounts : List (Reception α) → List α → Prop
  | start : Accounts [] []
  | message {receptions : List (Reception α)} {past : List α} {message : α} : Accounts receptions past →
      Accounts (receptions ++ [.message message]) (past ++ [message])
  | lagged {receptions : List (Reception α)} {past missed : List α} : Accounts receptions past →
      Accounts (receptions ++ [.lagged missed.length]) (past ++ missed)

theorem Accounts.length_eq {receptions : List (Reception α)} {past : List α} (accounts : Accounts receptions past) :
    past.length = passed receptions := by
  induction accounts with
  | start => rfl
  | message _ ih | lagged _ ih =>
    rw [List.length_append, passed_append, ih]
    simp [passed, Reception.count]

/-- Where nothing is lost, every message is received. -/
theorem Accounts.eq_of_unlagged {receptions : List (Reception α)} {past : List α} (accounts : Accounts receptions past)
    (unlagged : ∀ lost, .lagged lost ∉ receptions) : receptions.filterMap Reception.message? = past := by
  induction accounts with
  | start => rfl
  | message _ ih =>
    rw [List.filterMap_append, ih fun lost member => unlagged lost (List.mem_append_left _ member)]
    rfl
  | lagged => exact absurd (List.mem_append_right _ (List.mem_singleton_self _)) (unlagged _)

end

/-! ## What a stream tells of a category -/

theorem replay_append_of_others {changes later : List Change} {category : Category}
    (others : ∀ change ∈ later, change.category ≠ category) : replay (changes ++ later) category = replay changes category := by
  have none : later.filter (·.category = category) = [] := by simpa using others
  rw [replay, List.filter_append, none, List.append_nil, replay]

theorem replay_concat_of_own (changes : List Change) {change : Change} {category : Category}
    (own : change.category = category) : replay (changes ++ [change]) category = change.services := by
  simp [replay, own]

/-- The change of this number is the last of its category. -/
def LastOf (changes : List Change) (category : Category) (number : Nat) : Prop :=
  ∃ earlier change later, changes = earlier ++ change :: later ∧ change.category = category ∧
    (∀ other ∈ later, other.category ≠ category) ∧ earlier.length = number

theorem LastOf.append {changes later : List Change} {category : Category} {number : Nat}
    (last : LastOf changes category number) (others : ∀ other ∈ later, other.category ≠ category) :
    LastOf (changes ++ later) category number := by
  obtain ⟨earlier, change, behind, split, own, none, place⟩ := last
  refine ⟨earlier, change, behind ++ later, ?_, own, ?_, place⟩
  · rw [split, List.append_assoc, List.cons_append]
  · intro other member
    rcases List.mem_append.mp member with inside | after
    · exact none other inside
    · exact others other after

theorem LastOf.length_le {first : Change} {rest : List Change} {category : Category} {number : Nat}
    (last : LastOf (first :: rest) category number) (all : ∀ change ∈ rest, change.category = category) :
    rest.length ≤ number := by
  obtain ⟨earlier, change, later, split, _, none, rfl⟩ := last
  have ends : later = [] := by
    apply List.eq_nil_iff_forall_not_mem.mpr
    intro other member
    refine none other member (all other ?_)
    cases earlier with
    | nil =>
      rw [(List.cons.inj split).2]
      exact member
    | cons _ before =>
      rw [(List.cons.inj split).2]
      exact List.mem_append_right before (List.mem_cons_of_mem _ member)
  have lengths := congrArg List.length split
  rw [ends, List.length_append, List.length_cons, List.length_singleton] at lengths
  omega

theorem exists_lastOf {changes : List Change} {category : Category}
    (some : ∃ change ∈ changes, change.category = category) : ∃ number, LastOf changes category number := by
  induction changes using List.reverseRecOn with
  | nil => simp at some
  | append_singleton changes latest ih =>
    by_cases own : latest.category = category
    · exact ⟨changes.length, changes, latest, [], rfl, own, by simp, rfl⟩
    · obtain ⟨number, last⟩ := ih (by simpa [own] using some)
      exact ⟨number, last.append (by simpa using own)⟩

/-- The last list of a category that a stream has received is the last that has been announced, unless the stream has passed
over just that one. -/
theorem Accounts.replay_eq {receptions : List (Reception Change)} {past : List Change} (accounts : Accounts receptions past)
    {category : Category} (heard : ∀ number, LastOf past category number → ¬ PassesOver receptions number) :
    replay (receptions.filterMap Reception.message?) category = replay past category := by
  induction accounts with
  | start => rfl
  | @message receptions past change accounts ih =>
    rw [List.filterMap_append]
    change replay (_ ++ [change]) category = _
    by_cases own : change.category = category
    · rw [replay_concat_of_own _ own, replay_concat_of_own _ own]
    · have others : ∀ other ∈ [change], other.category ≠ category := by simpa using own
      rw [replay_append_of_others others, replay_append_of_others others]
      apply ih
      intro number last skipped
      exact heard number (last.append others) (skipped.append _)
  | @lagged receptions past missed accounts ih =>
    have unheard : (receptions ++ [Reception.lagged missed.length]).filterMap Reception.message? =
        receptions.filterMap Reception.message? := by
      rw [List.filterMap_append]
      exact List.append_nil _
    have others : ∀ other ∈ missed, other.category ≠ category := by
      -- Otherwise the last change of the category would be among those that are missed.
      intro other member own
      obtain ⟨number, earlier, change, later, split, same, none, place⟩ := exists_lastOf ⟨other, member, own⟩
      refine heard (past.length + number) ⟨past ++ earlier, change, later, ?_, same, none, ?_⟩ ?_
      · rw [split, List.append_assoc]
      · rw [List.length_append, place]
      · refine ⟨receptions, missed.length, [], rfl, ?_, ?_⟩
        · rw [← accounts.length_eq]
          exact Nat.le_add_right _ _
        · have within : number < missed.length := by
            rw [split, List.length_append, List.length_cons, place]
            omega
          rw [← accounts.length_eq]
          omega
    rw [unheard, replay_append_of_others others]
    apply ih
    intro number last skipped
    exact heard number (last.append others) (skipped.append _)

/-! ## The daemon with a client on its stream -/

/-- The event is one of the worker's own. -/
def Mdns.WiredEvent.isOwn {ι : Type} : WiredEvent ι → Bool
  | .system event => event.isOwn
  | .browser _ => false

/-- The daemon and a client that has opened a stream of its changes. -/
structure Followed (ι δ : Type) where
  wired : Wired ι δ
  /-- What the worker has announced and has still to send. -/
  unsent : List Change
  changes : Broadcast Change
  stream : EventStream

inductive FollowedEvent (ι : Type) where
  | wired (event : WiredEvent ι)
  | send (change : Change)
  | receive (reception : Reception Change)

namespace Followed

variable {ι δ : Type} [DecidableEq ι] [Device δ]

/-- The worker goes on when it has sent what it has announced. The client receives at any time what is next for it. -/
inductive Happens (agent : ι) : Followed ι δ → FollowedEvent ι → Followed ι δ → Prop
  | wired {followed : Followed ι δ} {event : WiredEvent ι} {next : Wired ι δ} :
      Wired.Happens agent followed.wired event next → (event.isOwn = true → followed.unsent = []) →
      Happens agent followed (.wired event)
        { followed with
          wired := next, unsent := followed.unsent ++ Clients.announced (Wired.systemEvents agent [event]) }
  | send {followed : Followed ι δ} {change : Change} {rest : List Change} : followed.unsent = change :: rest →
      Happens agent followed (.send change) { followed with unsent := rest, changes := followed.changes.send change }
  | receive {followed : Followed ι δ} {reception : Reception Change} {position : Nat} :
      followed.changes.next? followed.stream.position = some (reception, position) →
      Happens agent followed (.receive reception) { followed with stream := ⟨position⟩ }

inductive Runs (agent : ι) (start : Followed ι δ) : List (FollowedEvent ι) → Followed ι δ → Prop
  | start : Runs agent start [] start
  | next {trace : List (FollowedEvent ι)} {followed next : Followed ι δ} {event : FollowedEvent ι} :
      Runs agent start trace followed → Happens agent followed event next → Runs agent start (trace ++ [event]) next

/-- The client has been there from the start. -/
def start (window : Span) (dispatcher : Dispatcher δ) (requestSlots : Nat) (responder : Mdns.Responder) : Followed ι δ :=
  ⟨.start window dispatcher requestSlots responder, [], .empty Service.changeSlots, ⟨0⟩⟩

/-- Everything has been sent, and there is nothing to receive. -/
def CaughtUp (followed : Followed ι δ) : Prop :=
  followed.unsent = [] ∧ followed.changes.next? followed.stream.position = none

section
variable {ι : Type}

def wiredEvents (trace : List (FollowedEvent ι)) : List (WiredEvent ι) :=
  trace.filterMap fun
    | .wired event => some event
    | _ => none

def sent (trace : List (FollowedEvent ι)) : List Change :=
  trace.filterMap fun
    | .send change => some change
    | _ => none

def receptions (trace : List (FollowedEvent ι)) : List (Reception Change) :=
  trace.filterMap fun
    | .receive reception => some reception
    | _ => none

variable (trace later : List (FollowedEvent ι))

@[simp] theorem wiredEvents_append : wiredEvents (trace ++ later) = wiredEvents trace ++ wiredEvents later :=
  List.filterMap_append

@[simp] theorem sent_append : sent (trace ++ later) = sent trace ++ sent later := List.filterMap_append

@[simp] theorem receptions_append : receptions (trace ++ later) = receptions trace ++ receptions later :=
  List.filterMap_append

end

variable {agent : ι} {window : Span} {dispatcher : Dispatcher δ} {requestSlots : Nat} {responder : Mdns.Responder}
variable {trace : List (FollowedEvent ι)} {followed next : Followed ι δ} {event : FollowedEvent ι}

/-- What has been announced is sent or is still to be sent, and the stream accounts for what has been sent up to its
position. -/
structure Keeps (agent : ι) (begin : Wired ι δ) (trace : List (FollowedEvent ι)) (followed : Followed ι δ) : Prop where
  wired : Wired.Runs agent begin (wiredEvents trace) followed.wired
  announced : Clients.announced (Wired.systemEvents agent (wiredEvents trace)) = sent trace ++ followed.unsent
  capacity : followed.changes.capacity = Service.changeSlots
  carries : followed.changes.Carries (sent trace)
  inside : followed.stream.position ≤ (sent trace).length
  accounts : Accounts (receptions trace) ((sent trace).take followed.stream.position)

theorem Keeps.position_eq {begin : Wired ι δ} (keeps : Keeps agent begin trace followed) :
    passed (receptions trace) = followed.stream.position := by
  rw [← keeps.accounts.length_eq, List.length_take, Nat.min_eq_left keeps.inside]

/-- The stream passes over what the channel has lost, or takes the next change. -/
theorem Keeps.receive_cases {begin : Wired ι δ} (keeps : Keeps agent begin trace followed) {reception : Reception Change}
    {position : Nat} (received : followed.changes.next? followed.stream.position = some (reception, position)) :
    (∃ missed, reception = .lagged missed.length ∧ missed ≠ [] ∧ position + 64 = (sent trace).length ∧
      (sent trace).take position = (sent trace).take followed.stream.position ++ missed) ∨
    ∃ change, reception = .message change ∧ position ≤ (sent trace).length ∧
      (sent trace).take position = (sent trace).take followed.stream.position ++ [change] := by
  rw [keeps.carries.next?_eq, keeps.capacity, Service.changeSlots] at received
  split at received
  next late =>
    cases received
    have far : followed.stream.position + ((sent trace).length - 64 - followed.stream.position) =
        (sent trace).length - 64 := by omega
    refine .inl ⟨((sent trace).drop followed.stream.position).take ((sent trace).length - 64 - followed.stream.position), ?_,
      ?_, ?_, ?_⟩
    · rw [List.length_take, List.length_drop, Nat.min_eq_left (by omega)]
    · apply List.ne_nil_of_length_pos
      rw [List.length_take, List.length_drop]
      omega
    · omega
    · rw [← List.take_add, far]
  next =>
    obtain ⟨change, found, same⟩ := Option.map_eq_some_iff.mp received
    cases same
    obtain ⟨within, here⟩ := List.getElem?_eq_some_iff.mp found
    refine .inr ⟨change, rfl, within, ?_⟩
    rw [← here, List.take_append_getElem within]

theorem Keeps.happens {begin : Wired ι δ} (keeps : Keeps agent begin trace followed)
    (happens : Happens agent followed event next) : Keeps agent begin (trace ++ [event]) next := by
  have announced := keeps.announced
  cases happens with
  | @wired event _ happens =>
    have events : wiredEvents (trace ++ [.wired event]) = wiredEvents trace ++ [event] := wiredEvents_append trace _
    have unsent : sent (trace ++ [.wired event]) = sent trace := (sent_append trace _).trans (List.append_nil _)
    have unread : receptions (trace ++ [.wired event]) = receptions trace :=
      (receptions_append trace _).trans (List.append_nil _)
    constructor
    case wired =>
      rw [events]
      exact keeps.wired.next happens
    case announced =>
      rw [events, unsent, Wired.systemEvents_append, Clients.announced_append, announced, List.append_assoc]
    case capacity =>
      exact keeps.capacity
    case carries =>
      rw [unsent]
      exact keeps.carries
    case inside =>
      rw [unsent]
      exact keeps.inside
    case accounts =>
      rw [unsent, unread]
      exact keeps.accounts
  | @send change rest unsent =>
    have events : wiredEvents (trace ++ [.send change]) = wiredEvents trace :=
      (wiredEvents_append trace _).trans (List.append_nil _)
    have more : sent (trace ++ [.send change]) = sent trace ++ [change] := sent_append trace _
    have unread : receptions (trace ++ [.send change]) = receptions trace :=
      (receptions_append trace _).trans (List.append_nil _)
    constructor
    case wired =>
      rw [events]
      exact keeps.wired
    case announced =>
      rw [events, more, announced, unsent, List.append_cons]
    case capacity =>
      exact keeps.capacity
    case carries =>
      rw [more]
      exact keeps.carries.send change
    case inside =>
      rw [more, List.length_append]
      exact Nat.le_add_right_of_le keeps.inside
    case accounts =>
      rw [more, unread, List.take_append_of_le_length keeps.inside]
      exact keeps.accounts
  | @receive reception position received =>
    have events : wiredEvents (trace ++ [.receive reception]) = wiredEvents trace :=
      (wiredEvents_append trace _).trans (List.append_nil _)
    have unsent : sent (trace ++ [.receive reception]) = sent trace := (sent_append trace _).trans (List.append_nil _)
    have read : receptions (trace ++ [.receive reception]) = receptions trace ++ [reception] := receptions_append trace _
    -- Whichever it is, the stream has accounted for what it is past now.
    have moved : position ≤ (sent trace).length ∧
        Accounts (receptions trace ++ [reception]) ((sent trace).take position) := by
      rcases keeps.receive_cases received with ⟨missed, rfl, _, place, past⟩ | ⟨change, rfl, place, past⟩
      · rw [past]
        exact ⟨by omega, keeps.accounts.lagged⟩
      · rw [past]
        exact ⟨place, keeps.accounts.message⟩
    constructor
    case wired =>
      rw [events]
      exact keeps.wired
    case announced =>
      rw [events, unsent]
      exact announced
    case capacity =>
      exact keeps.capacity
    case carries =>
      rw [unsent]
      exact keeps.carries
    case inside =>
      rw [unsent]
      exact moved.1
    case accounts =>
      rw [unsent, read]
      exact moved.2

theorem keeps_runs (runs : Runs agent (.start window dispatcher requestSlots responder) trace followed) :
    Keeps agent (.start window dispatcher requestSlots responder) trace followed := by
  induction runs with
  | start => exact ⟨.start, rfl, rfl, Broadcast.carries_empty _, Nat.le_refl 0, .start⟩
  | next _ happens ih => exact ih.happens happens

/-- The stream reports a loss when the channel no longer has all that it has not taken yet, and then of all that the channel
no longer has. -/
theorem lagged_runs (runs : Runs agent (.start window dispatcher requestSlots responder) trace followed)
    {before after : List (FollowedEvent ι)} {lost : Nat} (split : trace = before ++ .receive (.lagged lost) :: after) :
    0 < lost ∧ passed (receptions before) + lost + 64 = (sent before).length := by
  induction runs generalizing after with
  | start => simp at split
  | @next trace followed _ event runs happens ih =>
    rcases split_concat split with ⟨rfl, rfl, _⟩ | ⟨rest, _, inside⟩
    · have keeps := keeps_runs runs
      cases happens with
      | receive received =>
        rcases keeps.receive_cases received with ⟨missed, same, some, place, past⟩ | ⟨_, same, _⟩
        · cases same
          have lengths := congrArg List.length past
          rw [List.length_append, List.length_take, List.length_take, Nat.min_eq_left keeps.inside] at lengths
          rw [keeps.position_eq]
          exact ⟨List.length_pos_iff.mpr some, by omega⟩
        · cases same
    · exact ih inside

/-! ## Runs in which the client comes late -/

/-- The worker can send all that it has announced before the client receives anything. -/
theorem exists_emptied (runs : Runs agent (.start window dispatcher requestSlots responder) trace followed) :
    ∃ more final, Runs agent (.start window dispatcher requestSlots responder) (trace ++ more) final ∧
      wiredEvents more = [] ∧ receptions more = [] ∧ final.wired = followed.wired ∧ final.unsent = [] ∧
      final.stream = followed.stream := by
  -- By induction on what is still to be sent.
  generalize left : followed.unsent = unsent
  induction unsent generalizing trace followed with
  | nil => exact ⟨[], followed, by simpa using runs, rfl, rfl, rfl, left, rfl⟩
  | cons change rest ih =>
    have happens : Happens agent followed (.send change) _ := .send left
    obtain ⟨more, final, on, quiet, unread, same, emptied, still⟩ := ih (runs.next happens) rfl
    rw [List.append_assoc] at on
    exact ⟨[.send change] ++ more, final, on, quiet, unread, same, emptied, still⟩

/-- Every run of the daemon can take place while the client receives nothing. -/
theorem exists_unread {events : List (WiredEvent ι)} {wired : Wired ι δ}
    (runs : Wired.Runs agent (.start window dispatcher requestSlots responder) events wired) :
    ∃ trace followed, Runs agent (.start window dispatcher requestSlots responder) trace followed ∧
      wiredEvents trace = events ∧ receptions trace = [] ∧ followed.wired = wired ∧ followed.unsent = [] ∧
      followed.stream = ⟨0⟩ := by
  induction runs with
  | start => exact ⟨[], _, .start, rfl, rfl, rfl, rfl, rfl⟩
  | @next events wired next event _ happens ih =>
    obtain ⟨trace, followed, runs, same, unread, rfl, emptied, still⟩ := ih
    obtain ⟨more, final, on, quiet, silent, here, done, place⟩ := exists_emptied (runs.next (.wired happens fun _ => emptied))
    refine ⟨_, final, on, ?_, ?_, here, done, place.trans still⟩
    · rw [wiredEvents_append, wiredEvents_append, same, quiet, List.append_nil]
      rfl
    · rw [receptions_append, receptions_append, unread, silent]
      rfl

/-- The client can receive all there is before anything else happens. -/
theorem exists_caughtUp (runs : Runs agent (.start window dispatcher requestSlots responder) trace followed)
    (emptied : followed.unsent = []) :
    ∃ more final, Runs agent (.start window dispatcher requestSlots responder) (trace ++ more) final ∧
      wiredEvents more = [] ∧ final.wired = followed.wired ∧ final.CaughtUp ∧
      receptions more = followed.changes.receive followed.stream.position := by
  -- By induction on what there is to receive: whatever comes first leaves the rest to be received.
  generalize there : followed.changes.receive followed.stream.position = waiting
  induction waiting generalizing trace followed with
  | nil =>
    refine ⟨[], followed, by simpa using runs, rfl, rfl, ⟨emptied, ?_⟩, rfl⟩
    cases next : followed.changes.next? followed.stream.position with
    | none => rfl
    | some received =>
      rw [Broadcast.receive_of_next? next] at there
      cases there
  | cons reception rest ih =>
    cases next : followed.changes.next? followed.stream.position with
    | none =>
      rw [Broadcast.receive_of_next?_none next] at there
      cases there
    | some received =>
      rw [Broadcast.receive_of_next? next] at there
      obtain ⟨rfl, others⟩ := List.cons.inj there
      obtain ⟨more, final, on, quiet, same, done, read⟩ := ih (runs.next (.receive next)) emptied others
      rw [List.append_assoc] at on
      exact ⟨[.receive received.1] ++ more, final, on, quiet, same, done, congrArg _ read⟩

/-- A client of the stream that receives nothing before the scan on the crowded host is over: the stream passes over all
changes but the last 64. -/
theorem exists_behind {ι : Type} [DecidableEq ι] {agent client : ι} (different : client ≠ agent) (responder : Mdns.Responder) :
    let config : Json := .object [("type", .string "adalight")]
    let start : Followed ι Backend := .start (.ofSeconds 120) (.unused Backend.registry config) Service.requestSlots responder
    ∃ trace followed, Runs agent start trace followed ∧ Wired.Idle agent followed.wired ∧ followed.CaughtUp ∧
      let announced := Clients.announced (Wired.systemEvents agent (wiredEvents trace))
      announced.map (·.category) = .pico :: List.replicate 255 .esp ∧ (∀ change ∈ announced, change.services ≠ []) ∧
      receptions trace = .lagged 192 :: (announced.drop 192).map .message := by
  intro config start
  obtain ⟨events, wired, daemon, idle, categories, full⟩ := exists_crowd different responder
  obtain ⟨trace, followed, runs, same, unread, rfl, emptied, position⟩ := exists_unread daemon
  obtain ⟨more, final, on, quiet, here, done, read⟩ := exists_caughtUp runs emptied
  have keeps := keeps_runs runs
  have length := congrArg List.length categories
  rw [List.length_map, List.length_cons, List.length_replicate] at length
  have whole : sent trace = Clients.announced (Wired.systemEvents agent events) := by
    have all := keeps.announced
    rwa [same, emptied, List.append_nil, eq_comm] at all
  -- It starts to receive when everything has been sent.
  have late : followed.changes.receive followed.stream.position =
      .lagged 192 :: ((Clients.announced (Wired.systemEvents agent events)).drop 192).map .message := by
    have carries : followed.changes.Carries ([] ++ sent trace) := keeps.carries
    rw [position]
    refine carries.receive_append.trans ?_
    rw [keeps.capacity, whole, Broadcast.fresh, Broadcast.newest, length]
    rfl
  have events_eq : wiredEvents (trace ++ more) = events := by rw [wiredEvents_append, same, quiet, List.append_nil]
  refine ⟨trace ++ more, final, on, here ▸ idle, done, ?_⟩
  rw [events_eq, receptions_append, unread, read]
  exact ⟨categories, full, late⟩

/-! ## What the client knows -/

/-- A client that has received all there is knows every list whose last change the stream has not passed over. The stream only
passes over changes when more than 64 have been sent that it has not taken, and then over all but the last 64 of them. If it
never does, the client knows every list. -/
theorem stream_tells_what_it_does_not_pass_over
    (runs : Runs agent (.start window dispatcher requestSlots responder) trace followed) (caughtUp : followed.CaughtUp) :
    let announced := Clients.announced (Wired.systemEvents agent (wiredEvents trace))
    let received := (receptions trace).filterMap Reception.message?
    (∀ category, (∀ number, LastOf announced category number → ¬ PassesOver (receptions trace) number) →
      members (replay received category) = members (followed.wired.system.catalogue.list category)) ∧
    (∀ before lost after, trace = before ++ .receive (.lagged lost) :: after →
      0 < lost ∧ passed (receptions before) + lost + 64 = (sent before).length) ∧
    ((∀ lost, .lagged lost ∉ receptions trace) → ∀ category,
      members (replay received category) = members (followed.wired.system.catalogue.list category)) := by
  intro announced received
  have keeps := keeps_runs runs
  obtain ⟨nothing, upToDate⟩ := caughtUp
  have whole : announced = sent trace := by
    have all := keeps.announced
    rwa [nothing, List.append_nil] at all
  -- There is nothing to receive, so the stream is past all that has been sent.
  have accounts : Accounts (receptions trace) announced := by
    have past := keeps.accounts
    rw [keeps.carries.next?_eq] at upToDate
    split at upToDate
    · cases upToDate
    · have behind : (sent trace).length ≤ followed.stream.position := by simpa using upToDate
      rwa [List.take_of_length_le behind, ← whole] at past
  have listed := members_replay_announced keeps.wired
  refine ⟨fun category heard => ?_, fun before lost after split => lagged_runs runs split, fun unlagged category => ?_⟩
  · rw [accounts.replay_eq heard]
    exact listed category
  · rw [show received = announced from accounts.eq_of_unlagged unlagged]
    exact listed category

/-- After the scan on the crowded host, a client that was far behind has lost changes, but knows the list of the category that
has changed last. -/
theorem stream_tells_what_it_does_not_pass_over_crowded :
    let config : Json := .object [("type", .string "adalight")]
    let start : Followed Bool Backend :=
      .start (.ofSeconds 120) (.unused Backend.registry config) Service.requestSlots fun _ => .ok ()
    ∃ trace followed, Runs true start trace followed ∧ followed.CaughtUp ∧ .lagged 192 ∈ receptions trace ∧
      members (replay ((receptions trace).filterMap Reception.message?) .esp) =
        members (followed.wired.system.catalogue.list .esp) := by
  intro config start
  have different : false ≠ true := Bool.noConfusion
  obtain ⟨trace, followed, runs, _, done, categories, _, read⟩ := exists_behind different fun _ => .ok ()
  refine ⟨trace, followed, runs, done, read ▸ List.mem_cons_self, ?_⟩
  apply (stream_tells_what_it_does_not_pass_over runs done).1
  intro number last skipped
  rw [read] at skipped
  obtain ⟨first, rest, split, _, boards⟩ := List.map_eq_cons_iff.mp categories
  have esp : ∀ change ∈ rest, change.category = .esp := by
    intro change member
    have inside := List.mem_map_of_mem (f := (·.category)) member
    rw [boards] at inside
    exact List.eq_of_mem_replicate inside
  rw [split] at last
  have length := congrArg List.length boards
  rw [List.length_map, List.length_replicate] at length
  -- Only the first 192 are passed over, and this is the last of all.
  have early := skipped.lt_of_cons
  have late := last.length_le esp
  omega

/-- The board that the scan on the crowded host has found first is listed in the end, and the client has never heard of it. -/
theorem stream_can_leave_out_a_category :
    let config : Json := .object [("type", .string "adalight")]
    let start : Followed Bool Backend :=
      .start (.ofSeconds 120) (.unused Backend.registry config) Service.requestSlots fun _ => .ok ()
    ∃ trace followed, Runs true start trace followed ∧ Wired.Idle true followed.wired ∧ followed.CaughtUp ∧
      members (replay ((receptions trace).filterMap Reception.message?) .pico) ≠
        members (followed.wired.system.catalogue.list .pico) := by
  intro config start
  have different : false ≠ true := Bool.noConfusion
  obtain ⟨trace, followed, runs, idle, done, categories, full, read⟩ := exists_behind different fun _ => .ok ()
  refine ⟨trace, followed, runs, idle, done, ?_⟩
  rw [← members_replay_announced (keeps_runs runs).wired, read]
  obtain ⟨first, rest, split, pico, boards⟩ := List.map_eq_cons_iff.mp categories
  rw [split] at full ⊢
  have others : ∀ change ∈ rest, change.category ≠ .pico := by
    intro change member
    have esp := List.mem_map_of_mem (f := (·.category)) member
    rw [boards] at esp
    rw [List.eq_of_mem_replicate esp]
    exact Category.noConfusion
  have heard : ((Reception.lagged 192 :: ((first :: rest).drop 192).map .message).filterMap Reception.message?) =
      [] ++ rest.drop 191 := by
    rw [List.filterMap_cons_none rfl, List.filterMap_map, Reception.message?_comp_message, List.filterMap_some]
    rfl
  have unheard : replay ([] ++ rest.drop 191) .pico = replay [] .pico :=
    replay_append_of_others fun change member => others change (List.mem_of_mem_drop member)
  have announced : replay ([first] ++ rest) .pico = first.services :=
    (replay_append_of_others others).trans (replay_concat_of_own [] pico)
  rw [heard, unheard, ← List.singleton_append, announced]
  intro same
  have none : first.services.length = 0 := by
    have lengths := congrArg List.length same
    rw [length_members, length_members] at lengths
    exact lengths.symm
  exact full first List.mem_cons_self (List.length_eq_zero_iff.mp none)

end Followed

end Discovery
