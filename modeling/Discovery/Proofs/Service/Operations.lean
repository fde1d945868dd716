import Discovery.Proofs.Clients.Schedule
import Discovery.Proofs.Mdns.Wired
import Discovery.Service
/-!
# Operations of the service

The service does everything in one go: an operation is over when nothing is on its way any more. Every operation is a run
of the worker, its clients and the browser from one state of rest to another, so what holds after every run of these
holds of the service.
-/
namespace Discovery

open Mdns (Browser Browsing Wired WiredEvent)
open Time (Span)

variable {ι δ : Type} [DecidableEq ι] [Device δ]
variable {agent : ι} {window : Span} {dispatcher : Dispatcher δ} {responder : Mdns.Responder}
variable {trace : List (WiredEvent ι)} {wired : Wired ι δ} {service : Service δ}

namespace Mdns.Wired

omit [DecidableEq ι] in
theorem foreign_of_own {event : Clients.Event ι} (own : event.isOwn = true) : Foreign agent event := by
  cases event <;> trivial

theorem Runs.others {start : Wired ι δ} {events : List (Clients.Event ι)} {next : Clients.State ι δ}
    (runs : Runs agent start trace wired) (others : Clients.Runs wired.system events next)
    (foreign : ∀ event ∈ events, Foreign agent event) :
    Runs agent start (trace ++ events.map .system) { wired with system := next } := by
  induction others with
  | start => simpa using runs
  | @next events state next event _ happens ih =>
    have before := ih fun other member => foreign other (List.mem_append_left _ member)
    rw [List.map_append, ← List.append_assoc]
    exact before.next (.system happens (foreign event (by simp)))

omit [DecidableEq ι] in
theorem systemEvents_map (events : List (Clients.Event ι)) : systemEvents agent (events.map .system) = events := by
  simp [systemEvents, List.flatMap_map]

/-! ## Calls -/

theorem exists_refused {start : Wired ι δ} (runs : Runs agent start trace wired) {client : ι} {command : Command}
    (sending : wired.system.calls client = .sending command) (closed : wired.system.commands.receiving = false) :
    ∃ more, Runs agent start (trace ++ more) { wired with system := wired.system.withCall client .idle } ∧
      Clients.announced (systemEvents agent more) = [] := by
  have returns : Clients.Happens wired.system (.returned client none .failed) _ := .refuse sending closed
  exact ⟨[.system (.returned client none .failed)], runs.next (.system returns trivial), rfl⟩

/-- A command that the queue accepts while nothing else is going on is executed, with all that comes of it, and the call
returns. -/
theorem exists_returned
    (runs : Runs agent (.start window dispatcher Service.requestSlots responder) trace wired) {client : ι}
    {command : Command} (sending : wired.system.calls client = .sending command)
    (receiving : wired.system.phase = .receiving) {commands : Channel Command}
    (sent : wired.system.worker.commands.send command = .ok commands) (surroundings : Surroundings) :
    let drained := { wired.system.worker with commands }.drain surroundings
    ∃ more next, Runs agent (.start window dispatcher Service.requestSlots responder) (trace ++ more) next ∧
      next.browser = wired.browser ∧ next.system.worker = drained.1 ∧ next.system.Settled ∧
      next.system.calls = (wired.system.withCall client .idle).calls ∧ next.system.joined = wired.system.joined ∧
      Clients.announced (systemEvents agent more) = drained.2.changes := by
  intro drained
  let envelope : Clients.Envelope ι := ⟨wired.system.tickets, .client client, command⟩
  have moved := wired.system.commands.send_map (·.command) envelope
  cases result : wired.system.commands.send envelope with
  | error error =>
    rw [result] at moved
    exact absurd (sent.symm.trans moved) nofun
  | ok queue =>
    -- The command is accepted,
    let entered := (wired.system.withCall client (.sent wired.system.tickets command)).accepting queue
    have enter : Clients.Happens wired.system (.accept envelope) entered := .enter sending result
    have worker : entered.worker = { wired.system.worker with commands } := by
      rw [result] at moved
      cases sent.symm.trans moved
      rfl
    -- the worker does what it has to do,
    have receiving : entered.phase = .receiving := receiving
    obtain ⟨last, ⟨events, done, does⟩, same, settled⟩ := Clients.reaches_drain surroundings receiving
    obtain ⟨calls, joined⟩ := done.calls_of_own does.own
    -- and the call returns.
    have waiting : last.calls client = .sent wired.system.tickets command := by
      rw [calls]
      exact if_pos rfl
    have through : Clients.Runs wired.system (.accept envelope :: events) last := (Clients.Runs.start.next enter).trans done
    have foreign : ∀ event ∈ Clients.Event.accept envelope :: events, Foreign agent event :=
      List.forall_mem_cons.mpr ⟨trivial, fun event member => foreign_of_own (List.all_eq_true.mp does.own event member)⟩
    have reached : Clients.Runs _ _ last := (runs.others through foreign).system
    obtain ⟨result, returns⟩ := Clients.exists_returns reached settled waiting
    let returned : Clients.Event ι := .returned client (some wired.system.tickets) result
    have whole : Clients.Runs wired.system (.accept envelope :: events ++ [returned]) (last.withCall client .idle) :=
      through.next (.finish waiting returns)
    rw [worker] at same does
    refine ⟨_, _, runs.others whole ?_, rfl, same, ⟨settled.unserved, settled.phase⟩, ?_, joined, ?_⟩
    · intro event member
      rcases List.mem_append.mp member with earlier | last
      · exact foreign event earlier
      · rw [List.mem_singleton.mp last]
        trivial
    · funext other
      by_cases same : other = client <;> simp [calls, entered, Clients.State.accepting, same]
    · rw [systemEvents_map, ← does.changes]
      simp [Clients.announced, Clients.executions, returned]

/-! ## Scan requests -/

/-- The browser that one operation for each category leads to. -/
theorem browser_forEach (operation : Browser → Category → Browsing) (browser : Browser) (categories : List Category) :
    (Browser.forEach operation browser categories).browser =
      categories.foldl (fun browser category => (operation browser category).browser) browser :=
  (List.foldl_hom Browsing.browser fun _ _ => rfl).symm

theorem exists_restarted {start : Wired ι δ} (runs : Runs agent start trace wired)
    (idle : wired.system.calls agent = .idle) (responder : Responder) :
    ∃ more next, Runs agent start (trace ++ more) next ∧
      next.browser = (wired.browser.forEach (·.restart responder ·) wired.system.requests.waiting).browser ∧
      next.system = { wired.system with requests := { wired.system.requests with waiting := [] } } ∧
      Clients.announced (systemEvents agent more) = [] := by
  simp only [browser_forEach]
  generalize asked : wired.system.requests.waiting = waiting
  induction waiting generalizing trace wired with
  | nil =>
    refine ⟨[], wired, by simpa using runs, rfl, ?_, rfl⟩
    rw [← asked]
  | cons category rest ih =>
    let requests := { wired.system.requests with waiting := rest }
    have received : wired.system.requests.receive? = some (category, requests) := by simp [Channel.receive?, asked, requests]
    let served := wired.browser.serve (.scan responder category)
    have taken : Happens agent wired (.browser served.2) ⟨{ wired.system with requests }, served.1⟩ :=
      .restarted idle rfl (.browse received)
    obtain ⟨more, next, on, browser, system, silent⟩ := ih (runs.next taken) idle rfl
    rw [List.append_assoc] at on
    refine ⟨_, next, on, browser, system, ?_⟩
    rw [systemEvents_append, Clients.announced_append, silent]
    rfl

end Mdns.Wired

/-! ## Operations -/

/-- The system is at rest but for the calls that clients are about to make, and this is what the service is then. -/
structure Shows (agent : ι) (trace : List (WiredEvent ι)) (wired : Wired ι δ) (service : Service δ)
    (calls : ι → Clients.Calling) : Prop where
  worker : wired.system.worker = service.worker
  browser : wired.browser = service.browser
  joined : wired.system.joined = service.joined
  changes : service.changes =
    (Broadcast.empty Service.changeSlots).sendAll (Clients.announced (Wired.systemEvents agent trace))
  settled : wired.system.Settled
  unasked : wired.system.requests.waiting = []
  calls : wired.system.calls = calls

def onlyCalling (client : ι) (command : Command) (other : ι) : Clients.Calling :=
  if other = client then .sending command else .idle

/-- There is a run of the worker, its clients and the browser to a state of rest in which the service is this. -/
def Attained (agent : ι) (window : Span) (dispatcher : Dispatcher δ) (responder : Mdns.Responder) (service : Service δ) :
    Prop :=
  ∃ trace wired, Wired.Runs agent (.start window dispatcher Service.requestSlots responder) trace wired ∧
    Shows agent trace wired service fun _ => .idle

theorem sendAll_append (channel : Broadcast Change) (first second : List Change) :
    channel.sendAll (first ++ second) = (channel.sendAll first).sendAll second := List.foldl_append

/-- A command is sent and executed, its call returns, and the browser serves the scan requests. -/
theorem Shows.submit {client : ι} {command : Command} (shows : Shows agent trace wired service (onlyCalling client command))
    (runs : Wired.Runs agent (.start window dispatcher Service.requestSlots responder) trace wired) (setting : Setting) :
    Attained agent window dispatcher responder (service.submit setting command).service := by
  obtain ⟨worker, browser, joined, changes, settled, unasked, calls⟩ := shows
  have sending : wired.system.calls client = .sending command := by
    rw [calls]
    exact if_pos rfl
  have returned : (wired.system.withCall client .idle).calls = fun _ => .idle := by
    funext other
    by_cases same : other = client <;> simp [calls, onlyCalling, same]
  unfold Service.submit
  cases sent : service.worker.commands.send command with
  | error error =>
    have closed := Clients.closed_of_send runs.system settled (worker ▸ sent)
    obtain ⟨more, on, silent⟩ := Wired.exists_refused runs sending closed
    refine ⟨_, _, on, worker, browser, joined, ?_, ⟨settled.unserved, settled.phase⟩, unasked, returned⟩
    rw [Wired.systemEvents_append, Clients.announced_append, silent, List.append_nil]
    exact changes
  | ok commands =>
    rw [← worker] at sent
    have receiving := Clients.receiving_of_send settled sent
    obtain ⟨more, next, on, kept, done, settled, idle, joint, announced⟩ :=
      Wired.exists_returned runs sending receiving sent setting.toSurroundings
    rw [returned] at idle
    have none : next.system.calls agent = .idle := by rw [idle]
    obtain ⟨others, last, on, browsing, system, silent⟩ := Wired.exists_restarted on none setting.responder
    rw [worker] at done announced
    refine ⟨_, last, on, ?_, ?_, ?_, ?_, ?_, ?_, ?_⟩
    · rw [system]
      exact congrArg (fun worker : Worker δ => { worker with requests := { worker.requests with waiting := [] } }) done
    · rw [browsing, kept, browser]
      exact congrArg (fun worker : Worker δ =>
        (service.browser.forEach (·.restart setting.responder ·) worker.requests.waiting).browser) done
    · rw [system]
      exact joint.trans joined
    · rw [Wired.systemEvents_append, Wired.systemEvents_append, Clients.announced_append, Clients.announced_append,
        silent, announced, List.append_nil, sendAll_append, ← changes]
      rfl
    · rw [system]
      exact ⟨settled.unserved, settled.phase⟩
    · rw [system]
    · rw [system]
      exact idle

/-- Whoever makes a call, it goes through. -/
theorem Shows.call {client : ι} {command : Command} {event : WiredEvent ι} {next : Wired ι δ} {asking : Service δ}
    (shows : Shows agent trace wired service fun _ => .idle)
    (runs : Wired.Runs agent (.start window dispatcher Service.requestSlots responder) trace wired)
    (happens : Wired.Happens agent wired event next)
    (system : next.system = { wired.system.withCall client (.sending command) with joined := asking.joined })
    (silent : Clients.announced (Wired.systemEvents agent [event]) = []) (browser : next.browser = asking.browser)
    (worker : asking.worker = service.worker) (changes : asking.changes = service.changes) (setting : Setting) :
    Attained agent window dispatcher responder (asking.submit setting command).service := by
  have asks : Shows agent (trace ++ [event]) next asking (onlyCalling client command) := {
    worker := by
      rw [system, worker]
      exact shows.worker
    browser
    joined := by rw [system]
    changes := by
      rw [Wired.systemEvents_append, Clients.announced_append, silent, List.append_nil, changes]
      exact shows.changes
    settled := by
      rw [system]
      exact ⟨shows.settled.unserved, shows.settled.phase⟩
    unasked := by
      rw [system]
      exact shows.unasked
    calls := by
      rw [system]
      funext other
      simp [onlyCalling, shows.calls] }
  exact asks.submit (runs.next happens) setting

namespace Attained

theorem request {client : ι} (different : client ≠ agent)
    (attained : Attained agent window dispatcher responder service) (setting : Setting) (request : Request) :
    Attained agent window dispatcher responder (service.submit setting (.request request)).service := by
  obtain ⟨trace, wired, runs, shows⟩ := attained
  have idle : wired.system.calls client = .idle := by rw [shows.calls]
  have system : wired.system.withCall client (.sending (.request request)) =
      { wired.system.withCall client (.sending (.request request)) with joined := service.joined } := by
    rw [← shows.joined]
    rfl
  exact shows.call runs (.system (.call idle) different) system rfl shows.browser rfl rfl setting

theorem shutdown {client : ι} (different : client ≠ agent)
    (attained : Attained agent window dispatcher responder service) (setting : Setting) :
    Attained agent window dispatcher responder (service.shutdown setting).service := by
  unfold Service.shutdown
  split
  · exact attained
  next unasked =>
    obtain ⟨trace, wired, runs, shows⟩ := attained
    have idle : wired.system.calls client = .idle := by rw [shows.calls]
    have unasked : wired.system.joined = false := by simpa [shows.joined] using unasked
    let asking : Service δ := { service with joined := true }
    have system : ({ wired.system.withCall client (.sending .shutdown) with joined := true } : Clients.State ι δ) =
      { wired.system.withCall client (.sending .shutdown) with joined := asking.joined } := rfl
    exact shows.call runs (.system (.shutdown idle unasked) different) system rfl shows.browser rfl rfl setting

/-- The browser takes up what arrives on a channel. -/
theorem receive (attained : Attained agent window dispatcher responder service) (setting : Setting)
    (listener : Mdns.Listener) (arrival : Mdns.Arrival) :
    Attained agent window dispatcher responder (service.receive setting listener arrival).service := by
  obtain ⟨trace, wired, runs, shows⟩ := attained
  have idle : wired.system.calls agent = .idle := by rw [shows.calls]
  obtain ⟨⟨browser, report⟩, received⟩ : ∃ done, service.browser.receive listener arrival = done := ⟨_, rfl⟩
  have served : wired.browser.serve (.arrival listener arrival) =
      (browser, ⟨.arrival listener arrival, wired.browser.hears listener, [], report⟩) := by
    rw [shows.browser]
    simp only [Browser.serve, received]
  let asking : Service δ := { service with browser }
  cases report with
  | none =>
    have quiet : service.receive setting listener arrival = asking.stay () := by
      simp only [Service.receive, received, asking]
    let event : WiredEvent ι := .browser ⟨.arrival listener arrival, wired.browser.hears listener, [], none⟩
    have happens : Wired.Happens agent wired event { wired with browser } := .unreported idle served rfl
    have silent : Wired.systemEvents agent (trace ++ [event]) = Wired.systemEvents agent trace := by
      rw [Wired.systemEvents_append]
      exact List.append_nil _
    rw [quiet]
    refine ⟨_, _, runs.next happens, shows.worker, rfl, shows.joined, ?_, shows.settled, shows.unasked, shows.calls⟩
    rw [silent]
    exact shows.changes
  | some sighting =>
    have through : (service.receive setting listener arrival).service =
        (asking.submit setting (.request (.sighting sighting))).service := by
      simp only [Service.receive, received, asking]
    rw [through]
    have system : wired.system.withCall agent (.sending (.request (.sighting sighting))) =
        { wired.system.withCall agent (.sending (.request (.sighting sighting))) with joined := asking.joined } := by
      rw [← shows.joined]
      rfl
    exact shows.call runs (.reported served rfl (.call idle)) system rfl rfl rfl rfl setting

theorem deliver (attained : Attained agent window dispatcher responder service) (setting : Setting)
    (category : Category) (browse : Option Nat) (arrival : Mdns.Arrival) :
    Attained agent window dispatcher responder (service.deliver setting category browse arrival).service := by
  unfold Service.deliver
  cases service.channel? category browse with
  | none => exact attained
  | some listener =>
    dsimp only
    split
    · exact attained
    split
    · -- The channel is closed; the service keeps that in mind, which the others do not see.
      obtain ⟨trace, wired, runs, shows⟩ := attained.receive setting listener .disconnected
      exact ⟨trace, wired, runs, { shows with }⟩
    split
    · exact attained.receive setting listener arrival
    · exact attained

theorem perform {client : ι} (different : client ≠ agent)
    (attained : Attained agent window dispatcher responder service) (setting : Setting) (action : Http.Action) :
    Attained agent window dispatcher responder (service.perform setting action).service := by
  cases action with
  | services | sessions => exact attained.request different setting _
  | fingerprint | events => exact attained
  | scan category =>
    cases category with
    | none => exact attained.request different setting _
    | some category =>
      dsimp only [Service.perform]
      cases category.scanTarget with
      | none => exact attained
      | some target => exact attained.request different setting _

theorem respond {client : ι} (different : client ≠ agent)
    (attained : Attained agent window dispatcher responder service) (setting : Setting) (asked : Http.Request) :
    Attained agent window dispatcher responder (service.respond setting asked).service := by
  unfold Service.respond
  cases Http.route asked with
  | error refusal => exact attained
  | ok action => exact attained.perform different setting action

end Attained

inductive Operated (start : Service δ) : Service δ → Prop
  | start : Operated start start
  | respond {service : Service δ} (setting : Setting) (asked : Http.Request) : Operated start service →
      Operated start (service.respond setting asked).service
  /-- A request of the maintenance. -/
  | tell {service : Service δ} (setting : Setting) (request : Request) : Operated start service →
      Operated start (service.tell setting request).service
  | deliver {service : Service δ} (setting : Setting) (category : Category) (browse : Option Nat)
      (arrival : Mdns.Arrival) : Operated start service →
      Operated start (service.deliver setting category browse arrival).service
  | shutdown {service : Service δ} (setting : Setting) : Operated start service →
      Operated start (service.shutdown setting).service
  | release {service : Service δ} (holder : Holder) : Operated start service → Operated start (service.release holder)

/-- Whatever has been done with a service, the worker, the browser and one client besides it could have done. -/
theorem attained_of_operated {client : ι} (different : client ≠ agent)
    (operated : Operated (Service.start (.empty window) dispatcher responder).service service) :
    Attained agent window dispatcher responder service := by
  induction operated with
  | start => exact ⟨[], _, .start, rfl, rfl, rfl, rfl, ⟨rfl, .inl rfl⟩, rfl, rfl⟩
  | respond setting asked _ ih => exact ih.respond different setting asked
  | tell setting request _ ih => exact ih.request different setting request
  | deliver setting category browse arrival _ ih => exact ih.deliver setting category browse arrival
  | shutdown setting _ ih => exact ih.shutdown different setting
  | release holder _ ih =>
    obtain ⟨trace, wired, runs, shows⟩ := ih
    exact ⟨trace, wired, runs, { shows with }⟩

end Discovery
