import Discovery.Proofs.Clients.Order
import Discovery.Proofs.Mdns.Removals
/-!
# The browser as a client

The browser is one of the clients of the worker, and the scans that the worker asks for are what it takes up besides the
events of its channels. A run of the two is a run of the worker with its clients, and what the browser has taken up on the
way is a history of the browser.
-/
namespace Discovery

open Time (Span)

namespace Mdns

variable {ι δ : Type} [DecidableEq ι] [Device δ]

/-- The worker with its clients, and the browser. -/
structure Wired (ι δ : Type) where
  system : Clients.State ι δ
  browser : Browser

inductive WiredEvent (ι : Type) where
  | system (event : Clients.Event ι)
  | browser (round : Round)

namespace Wired

/-- The event is not one of the browser's. -/
def Foreign (agent : ι) : Clients.Event ι → Prop
  | .call client _ | .pass client => client ≠ agent
  | .browse _ | .browserLeaves => False
  | _ => True

/-- The browser takes up nothing while it is waiting for a call to return. What it reports it sends as a sighting; a scan
that it takes up is one that was asked for. -/
inductive Happens (agent : ι) : Wired ι δ → WiredEvent ι → Wired ι δ → Prop
  | system {wired : Wired ι δ} {event : Clients.Event ι} {next : Clients.State ι δ} :
      Clients.Happens wired.system event next → Foreign agent event →
      Happens agent wired (.system event) { wired with system := next }
  | unreported {wired : Wired ι δ} {listener : Listener} {arrival : Arrival} {browser : Browser} {round : Round} :
      wired.system.calls agent = .idle → wired.browser.serve (.arrival listener arrival) = (browser, round) →
      round.report = none → Happens agent wired (.browser round) { wired with browser }
  | reported {wired : Wired ι δ} {listener : Listener} {arrival : Arrival} {browser : Browser} {round : Round}
      {sighting : Sighting} {next : Clients.State ι δ} :
      wired.browser.serve (.arrival listener arrival) = (browser, round) → round.report = some sighting →
      Clients.Happens wired.system (.call agent (.request (.sighting sighting))) next →
      Happens agent wired (.browser round) ⟨next, browser⟩
  | restarted {wired : Wired ι δ} {responder : Responder} {category : Category} {browser : Browser} {round : Round}
      {next : Clients.State ι δ} : wired.system.calls agent = .idle →
      wired.browser.serve (.scan responder category) = (browser, round) →
      Clients.Happens wired.system (.browse category) next → Happens agent wired (.browser round) ⟨next, browser⟩

inductive Runs (agent : ι) (start : Wired ι δ) : List (WiredEvent ι) → Wired ι δ → Prop
  | start : Runs agent start [] start
  | next {trace : List (WiredEvent ι)} {wired next : Wired ι δ} {event : WiredEvent ι} : Runs agent start trace wired →
      Happens agent wired event next → Runs agent start (trace ++ [event]) next

def start (window : Span) (dispatcher : Dispatcher δ) (requestSlots : Nat) (responder : Responder) : Wired ι δ :=
  ⟨.start (.empty window) dispatcher requestSlots, (History.start responder).browser⟩

/-- No command is being executed or waiting, no scan is being triggered, and the browser is not making a call. -/
def Idle (agent : ι) (wired : Wired ι δ) : Prop :=
  wired.system.phase = .receiving ∧ wired.system.commands.waiting = [] ∧ wired.system.calls agent = .idle

/-! ### The two parts of a trace -/

/-- What the worker and its clients have done, the browser's calls included. -/
def systemEvents (agent : ι) (trace : List (WiredEvent ι)) : List (Clients.Event ι) :=
  trace.flatMap fun
    | .system event => [event]
    | .browser ⟨.scan _ category, _, _, _⟩ => [.browse category]
    | .browser ⟨.arrival .., _, _, some sighting⟩ => [.call agent (.request (.sighting sighting))]
    | .browser ⟨.arrival .., _, _, none⟩ => []

/-- What the browser has taken up. -/
def happenings (trace : List (WiredEvent ι)) : List Happening :=
  trace.filterMap fun
    | .browser round => some round.happening
    | .system _ => none

/-- What the browser has reported. -/
def reports (trace : List (WiredEvent ι)) : List Sighting :=
  trace.filterMap fun
    | .browser round => round.report
    | .system _ => none

omit [DecidableEq ι] in
@[simp] theorem systemEvents_append (agent : ι) (trace later : List (WiredEvent ι)) :
    systemEvents agent (trace ++ later) = systemEvents agent trace ++ systemEvents agent later := List.flatMap_append

omit [DecidableEq ι] in
@[simp] theorem happenings_append (trace later : List (WiredEvent ι)) :
    happenings (trace ++ later) = happenings trace ++ happenings later := List.filterMap_append

variable {agent : ι} {trace : List (WiredEvent ι)} {wired next : Wired ι δ} {event : WiredEvent ι}

theorem happening_of_serve {browser after : Browser} {happening : Happening} {round : Round}
    (served : browser.serve happening = (after, round)) : round.happening = happening := by
  cases happening <;> cases served <;> rfl

/-- Whatever the browser takes up, the worker sees at most a call of the browser or a scan request taken. -/
theorem Happens.system_cases (happens : Happens agent wired event next) :
    systemEvents agent [event] = [] ∧ next.system = wired.system ∨
      ∃ seen, systemEvents agent [event] = [seen] ∧ Clients.Happens wired.system seen next.system := by
  -- A round holds what was taken up and what was reported, which tells the events apart.
  cases happens with
  | system happens => exact .inr ⟨_, rfl, happens⟩
  | @unreported _ _ _ round _ served silent =>
    obtain ⟨happening, current, calls, report⟩ := round
    cases happening_of_serve served
    cases silent
    exact .inl ⟨rfl, rfl⟩
  | @reported _ _ _ round _ _ served report happens =>
    obtain ⟨happening, current, calls, report⟩ := round
    cases happening_of_serve served
    cases report
    exact .inr ⟨_, rfl, happens⟩
  | @restarted _ _ _ round _ _ served happens =>
    obtain ⟨happening, current, calls, report⟩ := round
    cases happening_of_serve served
    exact .inr ⟨_, rfl, happens⟩

theorem Happens.isRunning_of_next (happens : Happens agent wired event next)
    (running : next.system.phase.isRunning = true) : wired.system.phase.isRunning = true := by
  rcases happens.system_cases with ⟨_, same⟩ | ⟨seen, _, happens⟩
  · rwa [same] at running
  · exact happens.isRunning_of_next running

/-- The browser issues what it reports and nothing else. -/
theorem Happens.issued_eq (happens : Happens agent wired event next) :
    Clients.issued agent (systemEvents agent [event]) = (reports [event]).map (.request ∘ .sighting) := by
  cases happens with
  | @system seen _ happens foreign =>
    cases seen with
    | call client command => exact List.filterMap_cons_none (if_neg foreign)
    | _ => rfl
  | @unreported _ _ _ round _ served silent =>
    obtain ⟨happening, current, calls, report⟩ := round
    cases happening_of_serve served
    cases silent
    rfl
  | @reported _ _ _ round _ _ served report =>
    obtain ⟨happening, current, calls, report⟩ := round
    cases happening_of_serve served
    cases report
    simp [systemEvents, Clients.issued, reports]
  | restarted _ served =>
    cases served
    rfl

theorem Runs.system {start : Wired ι δ} (runs : Runs agent start trace wired) :
    Clients.Runs start.system (systemEvents agent trace) wired.system := by
  induction runs with
  | start => exact .start
  | next _ happens ih =>
    rw [systemEvents_append]
    rcases happens.system_cases with ⟨none, same⟩ | ⟨seen, only, happens⟩
    · rw [none, List.append_nil, same]
      exact ih
    · rw [only]
      exact ih.next happens

theorem Happens.browser_cases (happens : Happens agent wired event next) :
    happenings [event] = [] ∧ reports [event] = [] ∧ next.browser = wired.browser ∨
      ∃ happening, happenings [event] = [happening] ∧
        reports [event] = (wired.browser.serve happening).2.report.toList ∧
        next.browser = (wired.browser.serve happening).1 := by
  cases happens with
  | system => exact .inl ⟨rfl, rfl, rfl⟩
  | @unreported _ _ _ round _ served | @reported _ _ _ round _ _ served | @restarted _ _ _ round _ _ served =>
    have reports : reports [WiredEvent.browser (ι := ι) round] = round.report.toList := by
      cases report : round.report <;> simp [reports, report]
    refine .inr ⟨_, congrArg (fun happening => [happening]) (happening_of_serve served), ?_, ?_⟩
    · rw [served]
      exact reports
    · rw [served]

theorem Runs.browser {window : Span} {dispatcher : Dispatcher δ} {requestSlots : Nat} {responder : Responder}
    (runs : Runs agent (.start window dispatcher requestSlots responder) trace wired) :
    wired.browser = (History.after responder (happenings trace)).browser := by
  induction runs with
  | start => rfl
  | next _ happens ih =>
    rw [happenings_append]
    rcases happens.browser_cases with ⟨none, _, same⟩ | ⟨happening, only, _, served⟩
    · rw [none, List.append_nil, same, ih]
    · rw [only, served, ih, History.after_concat]
      rfl

end Wired

end Mdns

end Discovery
