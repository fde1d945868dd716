import Mathlib.Logic.Relation
import Discovery.Daemon
import Discovery.Proofs.Service.Requests
import Discovery.Proofs.Subscribers.Reception
/-!
# The end of a stream

When the worker has ended, nothing is announced any more. A stream sends what is kept for it, and then nothing for ever,
but it is at its end only when the last holder of a handle has let go of it. While the daemon ends, its server holds a
handle until every stream is at its end. So the streams wait for the server, and the server waits for the streams.
-/
namespace Discovery

open Time (Span)

variable {δ : Type} [Device δ]

namespace Service

variable {window : Span} {dispatcher : Dispatcher δ} {responder : Mdns.Responder} {service later : Service δ}

/-! ## What operations come to -/

section Kept

variable {motive : Service δ → Prop} {setting : Setting}
  (browsing : ∀ service browser hungUp, motive service → motive { service with browser, hungUp })
  (submitting : ∀ service command, motive service → motive (service.submit setting command).service)

include submitting

/-- To the service, a request is at most a command. -/
theorem kept_respond (kept : motive service) (request : Http.Request) : motive (service.respond setting request).service := by
  cases routed : Http.route request with
  | error refusal =>
    simp only [respond, routed]
    exact kept
  | ok action =>
    rw [respond_of_route service setting routed]
    cases called : action.call? with
    | none =>
      obtain ⟨response, stayed⟩ := service.perform_of_uncalled setting called
      rw [stayed]
      exact kept
    | some asked =>
      obtain ⟨⟨same, _⟩, _⟩ := service.perform_of_called setting called
      rw [same]
      exact submitting service (.request asked) kept

include browsing

theorem kept_receive (kept : motive service) (listener : Mdns.Listener) (arrival : Mdns.Arrival) :
    motive (service.receive setting listener arrival).service := by
  unfold receive
  obtain ⟨browser, sighting⟩ := service.browser.receive listener arrival
  have browsed : motive { service with browser } := browsing service browser service.hungUp kept
  cases sighting with
  | none => exact browsed
  | some sighting => exact submitting _ (.request (.sighting sighting)) browsed

/-- Something that the responder sends moves the browser, and is at most a command besides. -/
theorem kept_deliver (kept : motive service) (category : Category) (browse : Option Nat) (arrival : Mdns.Arrival) :
    motive (service.deliver setting category browse arrival).service := by
  have received := kept_receive browsing submitting kept
  unfold deliver
  cases service.channel? category browse with
  | none => exact kept
  | some listener =>
    simp only
    split
    · exact kept
    · split
      · exact browsing _ _ _ (received listener .disconnected)
      · split
        · exact received listener arrival
        · exact kept

end Kept

/-! ## After the worker has ended -/

theorem closed_of_ended (operated : Operated (start (.empty window) dispatcher responder).service service)
    (ended : service.worker.running = false) : service.Closed := by
  rcases rest_or_closed_of_operated operated with ⟨rest, _⟩ | closed
  · exact absurd (ended.symm.trans rest.running) Bool.noConfusion
  · exact closed

/-- The worker and the channel of changes are as they were. -/
def Silent (service later : Service δ) : Prop := later.worker = service.worker ∧ later.changes = service.changes

theorem Silent.submit (silent : service.Silent later) (closed : service.Closed) (setting : Setting) (command : Command) :
    service.Silent (later.submit setting command).service := by
  have still : later.Closed := by
    rw [Closed, silent.1]
    exact closed
  rw [submit_of_closed still]
  exact silent

/-- Whatever is done with a service whose worker has ended, the worker stays as it is, and nothing is announced. -/
theorem silent_of_operated (closed : service.Closed) (operated : Operated service later) : service.Silent later := by
  -- By induction on what is done: the worker is still the one that has ended, so whatever it is sent is refused.
  induction operated with
  | start => exact ⟨rfl, rfl⟩
  | respond setting asked _ ih =>
    exact kept_respond (fun _ command silent => silent.submit closed setting command) ih asked
  | tell setting request _ ih => exact ih.submit closed setting (.request request)
  | deliver setting category browse arrival _ ih =>
    exact kept_deliver (fun _ _ _ silent => silent) (fun _ command silent => silent.submit closed setting command) ih
      category browse arrival
  | @shutdown later setting _ ih =>
    unfold shutdown
    split
    · exact ih
    · have silent : service.Silent { later with joined := true } := ih
      exact silent.submit closed setting .shutdown
  | release holder _ ih => exact ih

/-! ## What a stream has left -/

/-- A stream that has been read has nothing to send until something is announced. -/
theorem pendingEvents_read (operated : Operated (start (.empty window) dispatcher responder).service service)
    (stream : EventStream) : service.pendingEvents (service.readStream stream).2 = [] := by
  -- The channel holds what has been announced in a run that leads to the service.
  obtain ⟨trace, wired, _, shows⟩ := attained_of_operated (show false ≠ true from Bool.noConfusion) operated
  have carries := (Broadcast.carries_empty changeSlots).sendAll (Clients.announced (Mdns.Wired.systemEvents true trace))
  rw [← shows.changes] at carries
  simp only [pendingEvents, readStream, carries.receive_sent, List.filterMap_nil]

omit [Device δ] in
theorem streamEnded_iff {stream : EventStream} (ended : service.worker.running = false)
    (silent : service.pendingEvents stream = []) : service.streamEnded stream = true ↔ service.holders = [] := by
  simp [streamEnded, senders, silent, ended, List.length_eq_zero_iff]

theorem operated_trans {middle : Service δ} (first : Operated service middle) (second : Operated middle later) :
    Operated service later := by
  induction second with
  | start => exact first
  | respond setting asked _ ih => exact .respond setting asked ih
  | tell setting request _ ih => exact .tell setting request ih
  | deliver setting category browse arrival _ ih => exact .deliver setting category browse arrival ih
  | shutdown setting _ ih => exact .shutdown setting ih
  | release holder _ ih => exact .release holder ih

/-! ## Handles -/

/-- Nobody lets go of a handle in an operation, or asks for the end of the worker. -/
def Holds (service later : Service δ) : Prop := later.holders = service.holders ∧ later.joined = service.joined

theorem holds_submit (service : Service δ) (setting : Setting) (command : Command) :
    service.Holds (service.submit setting command).service := by
  unfold submit
  split <;> exact ⟨rfl, rfl⟩

theorem Holds.submit (holds : service.Holds later) (setting : Setting) (command : Command) :
    service.Holds (later.submit setting command).service := by
  obtain ⟨holders, joined⟩ := holds_submit later setting command
  exact ⟨holders.trans holds.1, joined.trans holds.2⟩

omit [Device δ] in
theorem streamEnded_of_holder {holder : Holder} (held : holder ∈ service.holders) (stream : EventStream) :
    service.streamEnded stream = false := by
  have some : service.holders.length ≠ 0 := fun none => List.not_mem_nil (List.length_eq_zero_iff.mp none ▸ held)
  have senders : service.senders ≠ 0 := by
    unfold senders
    omega
  simp [streamEnded, senders]

theorem joined_shutdown (service : Service δ) (setting : Setting) : (service.shutdown setting).service.joined = true := by
  unfold shutdown
  split
  · assumption
  · exact (holds_submit { service with joined := true } setting .shutdown).2

theorem holders_shutdown (service : Service δ) (setting : Setting) :
    (service.shutdown setting).service.holders = service.holders := by
  unfold shutdown
  split
  · rfl
  · exact (holds_submit { service with joined := true } setting .shutdown).1

/-! ## The end -/

/-- A host without interfaces and without serial ports, and a responder that does whatever it is asked for. -/
def bare : Setting where
  moment := ⟨.epoch, .readable []⟩
  host := ⟨.listed [], fun _ => .error "", fun _ => .error ""⟩
  responder := fun _ => .ok ()

def lamp : Sighting := ⟨.wled, "10.0.0.5", 80, "attic", true⟩

/-- A service that has just been started. -/
def young : Service Backend := (start (.empty (.ofSeconds 30)) ⟨Backend.registry, .null, .unused⟩ bare.responder).service

/-- The service has sighted a lamp, and then it has been shut down. -/
def lampOut : Service Backend := ((young.tell bare (.sighting lamp)).service.shutdown bare).service

theorem operated_lampOut : Operated young lampOut := .shutdown bare (.tell bare (.sighting lamp) .start)

/-- The worker has ended as it should, nobody has let go of a handle, and a stream from the start has the lamp to send. -/
theorem lampOut_ended :
    ((young.tell bare (.sighting lamp)).service.shutdown bare).result = .ok () ∧ lampOut.joined = true ∧
      lampOut.worker.running = false ∧ lampOut.holders = [.main, .browser, .maintenance, .router] ∧
      (lampOut.pendingEvents young.openStream).map (·.category) = [.wled] := by
  have rest : young.worker.AtRest := atRest_start (.ofSeconds 30) _ bare.responder
  obtain ⟨step, served⟩ : ∃ step, young.worker.catalogue.serve bare.moment (.sighting lamp) = .ok step :=
    Catalogue.exists_sight rest.complete fun _ _ _ => by decide +kernel
  have quiet := Worker.scans_of_sighting served
  obtain ⟨_, still, joined, _⟩ := tell_of_rest rest served quiet
  have sent := changes_of_rest rest served quiet
  obtain ⟨result, asked, ended, kept⟩ := shutdown_of_rest still joined bare
  refine ⟨result, asked, ended, ?_, ?_⟩
  · exact (holders_shutdown _ bare).trans (holds_submit young bare _).1
  · rw [pendingEvents, lampOut, kept, sent]
    decide +kernel

/-- Once a stream has been read after the end of the worker, there is nothing for it any more. -/
theorem silent_after_read (operated : Operated (start (.empty window) dispatcher responder).service service)
    (ended : service.worker.running = false) (stream : EventStream) (after : Operated service later) :
    later.worker.running = false ∧ later.pendingEvents (service.readStream stream).2 = [] := by
  obtain ⟨worker, changes⟩ := silent_of_operated (closed_of_ended operated ended) after
  have read := pendingEvents_read operated stream
  rw [pendingEvents, ← changes] at read
  exact ⟨by rw [worker]; exact ended, read⟩

/-- When the worker has ended, a stream still sends what is kept for it. After that it sends nothing, whatever is done, and
it is at its end as soon as nobody holds a handle any more, and not before. -/
theorem streams_end_with_the_last_handle
    (operated : Operated (start (.empty window) dispatcher responder).service service)
    (ended : service.worker.running = false) (stream : EventStream) {reading : Service δ}
    (meanwhile : Operated service reading) :
    let read := reading.readStream stream
    read.1 = (service.pendingEvents stream).map Http.eventText ∧
      ∀ later, Operated reading later →
        later.pendingEvents read.2 = [] ∧ (later.streamEnded read.2 = true ↔ later.holders = []) := by
  intro read
  obtain ⟨worker, kept⟩ := silent_of_operated (closed_of_ended operated ended) meanwhile
  constructor
  · simp only [read, readStream, pendingEvents, kept]
  · intro later after
    have stopped : reading.worker.running = false := by
      rw [worker]
      exact ended
    obtain ⟨still, silent⟩ := silent_after_read (operated_trans operated meanwhile) stopped stream after
    exact ⟨silent, streamEnded_iff still silent⟩

/-- The lamp is the last that a stream from the start sends. When all but `main` have let go of their handles it is not at
its end yet, and when `main` does too it is. -/
theorem streams_end_with_the_last_handle_lamp :
    let read := lampOut.readStream young.openStream
    let alone := ((lampOut.release .browser).release .maintenance).release .router
    Operated young lampOut ∧ lampOut.worker.running = false ∧ read.1.length = 1 ∧
      alone.streamEnded read.2 = false ∧ (alone.release .main).streamEnded read.2 = true := by
  intro read alone
  obtain ⟨_, _, ended, holders, lamps⟩ := lampOut_ended
  obtain ⟨texts, ends⟩ := streams_end_with_the_last_handle operated_lampOut ended young.openStream .start
  have released : Operated lampOut alone := .release .router (.release .maintenance (.release .browser .start))
  have last : alone.holders = [.main] := by
    simp only [alone, release, holders]
    decide
  refine ⟨operated_lampOut, ended, ?_, ?_, ?_⟩
  · have lengths := congrArg List.length lamps
    rw [List.length_map] at lengths
    rw [texts, List.length_map, lengths]
    rfl
  · rw [Bool.eq_false_iff, Ne, (ends alone released).2, last]
    exact List.cons_ne_nil _ _
  · rw [(ends (alone.release .main) (.release .main released)).2, release, last]
    decide

/-- The service has been shut down and its worker has ended, and a stream that has sent the lamp waits for what nobody can
send any more, for as long as `main` holds its handle. -/
theorem stream_waits_after_shutdown :
    let done := (young.tell bare (.sighting lamp)).service.shutdown bare
    let read := done.service.readStream young.openStream
    Operated young done.service ∧ done.result = .ok () ∧ done.service.worker.running = false ∧
      .main ∈ done.service.holders ∧ read.1.length = 1 ∧
      ∀ later, Operated done.service later → .main ∈ later.holders →
        later.pendingEvents read.2 = [] ∧ later.streamEnded read.2 = false := by
  intro done read
  obtain ⟨result, _, ended, holders, lamps⟩ := lampOut_ended
  have lengths := congrArg List.length lamps
  rw [List.length_map] at lengths
  refine ⟨operated_lampOut, result, ended, ?_, (List.length_map _).trans lengths, ?_⟩
  · rw [show done.service.holders = _ from holders]
    exact List.mem_cons_self
  · intro later after held
    exact ⟨(silent_after_read operated_lampOut ended young.openStream after).2, streamEnded_of_holder held read.2⟩

end Service

/-! ## While the daemon ends -/

namespace Daemon

/-- A daemon that has been told to end, and the streams of the clients that stay. -/
structure Closing where
  service : Service Backend
  streams : List EventStream

namespace Closing

/-- What can happen while a daemon ends. What is on its way is still worked off, and that can be a request for a stream. The
browser and the maintenance end and let go of their handles. The server does when no stream is open any more, `main` stops
the worker when it is the last holder of a handle, and lets go of its own in the end. -/
inductive Happens (closing : Closing) : Closing → Prop
  | respond (setting : Setting) (asked : Http.Request) :
      Happens closing { closing with service := (closing.service.respond setting asked).service }
  | tell (setting : Setting) (request : Request) :
      Happens closing { closing with service := (closing.service.tell setting request).service }
  | deliver (setting : Setting) (category : Category) (browse : Option Nat) (arrival : Mdns.Arrival) :
      Happens closing { closing with service := (closing.service.deliver setting category browse arrival).service }
  | opened : .router ∈ closing.service.holders →
      Happens closing { closing with streams := closing.streams ++ [closing.service.openStream] }
  | read {before after : List EventStream} {stream : EventStream} : closing.streams = before ++ stream :: after →
      Happens closing { closing with streams := before ++ (closing.service.readStream stream).2 :: after }
  | finish {before after : List EventStream} {stream : EventStream} : closing.streams = before ++ stream :: after →
      closing.service.streamEnded stream = true → Happens closing { closing with streams := before ++ after }
  | part {holder : Holder} : holder = .browser ∨ holder = .maintenance →
      Happens closing { closing with service := closing.service.release holder }
  | server : closing.streams = [] → Happens closing { closing with service := closing.service.release .router }
  | stop (setting : Setting) : (∀ holder ∈ closing.service.holders, holder = .main) →
      Happens closing { closing with service := (closing.service.shutdown setting).service }
  | returned : closing.service.joined = true →
      Happens closing { closing with service := closing.service.release .main }

/-- There are streams to wait for, and so the server and `main` keep their handles. -/
structure Waits (closing : Closing) : Prop where
  streaming : closing.streams ≠ []
  router : .router ∈ closing.service.holders
  main : .main ∈ closing.service.holders
  unjoined : closing.service.joined = false

theorem Waits.of_holds {closing : Closing} {later : Service Backend} (waits : Waits closing)
    (holds : closing.service.Holds later) : Waits { closing with service := later } := by
  obtain ⟨holders, joined⟩ := holds
  constructor
  case streaming => exact waits.streaming
  case router => exact holders ▸ waits.router
  case main => exact holders ▸ waits.main
  case unjoined => exact joined.trans waits.unjoined

theorem Waits.happens {closing next : Closing} (waits : Waits closing) (happens : Happens closing next) : Waits next := by
  cases happens with
  | respond setting asked =>
    exact waits.of_holds (Service.kept_respond (fun _ command holds => holds.submit setting command) ⟨rfl, rfl⟩ asked)
  | tell setting request => exact waits.of_holds (Service.holds_submit _ setting _)
  | deliver setting category browse arrival =>
    exact waits.of_holds (Service.kept_deliver (fun _ _ _ holds => holds)
      (fun _ command holds => holds.submit setting command) ⟨rfl, rfl⟩ category browse arrival)
  | opened | read => exact { waits with streaming := by simp }
  | finish _ ended =>
    -- No stream is at its end while the server holds a handle.
    rw [Service.streamEnded_of_holder waits.router] at ended
    exact absurd ended Bool.noConfusion
  | part either =>
    refine { waits with router := List.mem_filter.mpr ⟨waits.router, ?_⟩, main := List.mem_filter.mpr ⟨waits.main, ?_⟩ } <;>
      rcases either with rfl | rfl <;> decide
  | server none => exact absurd none waits.streaming
  | stop setting alone =>
    -- The server still has its handle, so `main` is not the only holder.
    exact absurd (alone _ waits.router) Holder.noConfusion
  | returned joined => exact absurd (waits.unjoined.symm.trans joined) Bool.noConfusion

theorem waits_of_reached {first closing : Closing} (waits : Waits first)
    (reached : Relation.ReflTransGen Happens first closing) : Waits closing := by
  induction reached with
  | refl => exact waits
  | tail _ happens ih => exact ih.happens happens

end Closing

open Closing

/-- When no client stays, everything goes as it should: the daemon stops. -/
theorem reaches_stop (daemon : Daemon) (setting : Setting) :
    Relation.ReflTransGen Happens ⟨daemon.service, []⟩ ⟨(daemon.stop setting).1, []⟩ := by
  have alone : ∀ holder ∈ (((daemon.service.release .browser).release .maintenance).release .router).holders,
      holder = .main := by
    intro holder
    cases holder <;> simp [Service.release]
  -- The browser, the maintenance and the server end, and `main` stops the worker.
  exact .tail (.tail (.tail (.single (.part (.inl rfl))) (.part (.inr rfl))) (.server rfl)) (.stop setting alone)

/-- A daemon that has been told to end stops its worker only if no client stays with a stream. -/
theorem stops_iff_no_client_stays {daemon : Daemon} (held : ∀ holder, holder ∈ daemon.service.holders)
    (unjoined : daemon.service.joined = false) (streams : List EventStream) :
    (∃ closing, Relation.ReflTransGen Happens ⟨daemon.service, streams⟩ closing ∧ closing.service.joined = true) ↔
      streams = [] := by
  constructor
  · rintro ⟨closing, reached, joined⟩
    by_contra streaming
    -- The streams are waited for in every state, and until then `main` does not stop the worker.
    have waits : Waits ⟨daemon.service, streams⟩ := ⟨streaming, held .router, held .main, unjoined⟩
    exact absurd ((waits_of_reached waits reached).unjoined.symm.trans joined) Bool.noConfusion
  · rintro rfl
    exact ⟨_, reaches_stop daemon Service.bare, Service.joined_shutdown _ _⟩

end Daemon

end Discovery
