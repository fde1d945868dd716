import Discovery.Proofs.Backend.Construction
import Discovery.Proofs.Trace
import Mathlib.Data.List.Induction
/-!
# When a backend is ready

A backend is used by calls that open it, close it or have it discover, in any order, and every time it is opened the host
may let it or refuse. `Comes` says all that a single call can come to. It follows that a backend is ready if and only if it
has been opened with success and not been closed since. Both kinds keep to that, although they treat a second opening
differently: a file that is open stays open and is not created again, and a port that is open gives way to the new one, if
the new one opens.
-/
namespace Discovery

/-- A call on a backend, with the host as it is at that moment. -/
inductive Use where
  | openOutput (host : Host)
  | closeOutput
  | discover (host : Host) (params : Json)

def Use.opens : Use → Bool
  | openOutput _ => true
  | closeOutput | discover _ _ => false

/-- A call together with the backend that it is made on. -/
structure Usage where
  before : Backend
  use : Use

namespace Backend

/-- The answer of a backend to a call, without what it has discovered. -/
def meet (backend : Backend) : Use → Reply Backend Unit
  | .openOutput host => Device.openOutput host backend
  | .closeOutput => Device.closeOutput backend
  | .discover host params =>
    let reply := Device.discover host params backend
    { device := reply.device, result := reply.result.map fun _ => (), effects := reply.effects }

/-- What has become of a backend after calls. -/
def after (backend : Backend) (uses : List Use) : Backend := uses.foldl (fun held use => (held.meet use).device) backend

/-- Calls that are made one after the other, each on what the calls before it have left. -/
def usages (backend : Backend) : List Use → List Usage
  | [] => []
  | use :: rest => ⟨backend, use⟩ :: usages (backend.meet use).device rest

/-- The backend as it is while its output is not open. -/
def shut : Backend → Backend
  | adalight device => adalight { device with opened := none }
  | file device => file { device with opened := false }

end Backend

namespace Usage

def reply (usage : Usage) : Reply Backend Unit := usage.before.meet usage.use

/-- The backend is opened, and that succeeds. -/
def succeeds (usage : Usage) : Prop := usage.use.opens = true ∧ usage.reply.result = .ok ()

end Usage

/-- The backend has been opened with success, and it has not been closed since. -/
def OpenedSinceClose (usages : List Usage) : Prop :=
  ∃ earlier usage later, usages = earlier ++ usage :: later ∧ usage.succeeds ∧
    ∀ other ∈ later, other.use ≠ .closeOutput

theorem not_openedSinceClose_nil : ¬ OpenedSinceClose [] := by
  rintro ⟨earlier, usage, later, split, _⟩
  simp at split

theorem openedSinceClose_concat (usages : List Usage) (usage : Usage) :
    OpenedSinceClose (usages ++ [usage]) ↔
      usage.succeeds ∨ (OpenedSinceClose usages ∧ usage.use ≠ .closeOutput) := by
  constructor
  · rintro ⟨earlier, last, later, split, succeeds, unclosed⟩
    -- The opening is the new call, or it is an old one and the new call does not close.
    rcases split_concat split with ⟨rfl, rfl, rfl⟩ | ⟨between, rfl, rest⟩
    · exact .inl succeeds
    · have still : OpenedSinceClose usages :=
        ⟨earlier, last, between, rest, succeeds, fun other member => unclosed other (by simp [member])⟩
      exact .inr ⟨still, unclosed usage (by simp)⟩
  · rintro (succeeds | ⟨⟨earlier, last, later, rfl, succeeds, unclosed⟩, kept⟩)
    · exact ⟨usages, usage, [], rfl, succeeds, by simp⟩
    · refine ⟨earlier, last, later ++ [usage], by simp, succeeds, fun other member => ?_⟩
      rcases List.mem_append.mp member with old | new
      · exact unclosed other old
      · rw [List.mem_singleton.mp new]
        exact kept

namespace Backend

/-! ## A single call -/

/-- What a call can come to. -/
inductive Comes : Backend → Use → Reply Backend Unit → Prop
  | unconfigured {device : Adalight} {host : Host} {logs : List Log} : device.options.output = none →
      Comes (adalight device) (.openOutput host)
        ⟨adalight device, .error (.notConfigured Adalight.kind), ⟨[], [], [], logs⟩⟩
  | attached {device : Adalight} {host : Host} {path : String} {name : Option String} {logs : List Log} :
      device.options.output = some path → host.openPort path = .ok name →
      Comes (adalight device) (.openOutput host) ⟨adalight { device with opened := some name }, .ok (),
        ⟨[], [⟨path, device.options.baudRate, Adalight.openTimeoutMillis⟩], [], logs⟩⟩
  | refused {device : Adalight} {host : Host} {path reason : String} {logs : List Log} :
      device.options.output = some path → host.openPort path = .error reason →
      Comes (adalight device) (.openOutput host) ⟨adalight device, .error (.serial reason),
        ⟨[], [⟨path, device.options.baudRate, Adalight.openTimeoutMillis⟩], [], logs⟩⟩
  | kept {path : String} {host : Host} {logs : List Log} :
      Comes (file ⟨path, true⟩) (.openOutput host) ⟨file ⟨path, true⟩, .ok (), ⟨[], [], [], logs⟩⟩
  | created {path : String} {host : Host} {logs : List Log} : host.createFile path = .ok () →
      Comes (file ⟨path, false⟩) (.openOutput host) ⟨file ⟨path, true⟩, .ok (), ⟨[], [], [path], logs⟩⟩
  | uncreated {path reason : String} {host : Host} {logs : List Log} : host.createFile path = .error reason →
      Comes (file ⟨path, false⟩) (.openOutput host)
        ⟨file ⟨path, false⟩, .error (.io reason), ⟨[], [], [path], logs⟩⟩
  | closed {backend : Backend} {logs : List Log} :
      Comes backend .closeOutput ⟨backend.shut, .ok (), ⟨[], [], [], logs⟩⟩
  | discovered {backend : Backend} {host : Host} {params : Json} {result : Except BackendError Unit}
      {sightings : List Sighting} {logs : List Log} :
      Comes backend (.discover host params) ⟨backend, result, ⟨sightings, [], [], logs⟩⟩

theorem comes_meet (backend : Backend) (use : Use) : Comes backend use (backend.meet use) := by
  cases backend with
  | adalight device =>
    cases use with
    | openOutput host =>
      simp only [meet, Device.openOutput, lift, Adalight.openOutput]
      cases output : device.options.output with
      | none => exact .unconfigured output
      | some path =>
        cases port : host.openPort path with
        | ok name => simpa only [port] using Comes.attached output port
        | error reason => simpa only [port] using Comes.refused output port
    | closeOutput =>
      obtain ⟨options, opened⟩ := device
      cases opened <;> exact .closed
    | discover host params =>
      simp only [meet, Device.discover, lift, Adalight.discover]
      cases host.ports <;> exact .discovered
  | file device =>
    obtain ⟨path, opened⟩ := device
    cases use with
    | openOutput host =>
      simp only [meet, Device.openOutput, lift, FileOutput.openOutput]
      cases opened with
      | true => exact .kept
      | false =>
        cases creation : host.createFile path with
        | ok _ => simpa only [creation, Bool.false_eq_true, if_false] using Comes.created creation
        | error reason => simpa only [creation, Bool.false_eq_true, if_false] using Comes.uncreated creation
    | closeOutput => exact .closed
    | discover host params => exact .discovered

variable {backend : Backend} {use : Use} {reply : Reply Backend Unit}

theorem ready_shut (backend : Backend) : Device.ready backend.shut = false := by
  cases backend <;> rfl

theorem shut_of_unready (unready : Device.ready backend = false) : backend.shut = backend := by
  cases backend with
  | adalight device =>
    obtain ⟨options, opened⟩ := device
    cases opened with
    | none => rfl
    | some name => cases unready
  | file device =>
    obtain ⟨path, opened⟩ := device
    cases opened with
    | false => rfl
    | true => cases unready

namespace Comes

/-- After a call the backend is ready if the call has opened it, or if it was ready before and has not been closed. -/
theorem ready_iff (comes : Comes backend use reply) :
    Device.ready reply.device = true ↔
      (use.opens = true ∧ reply.result = .ok ()) ∨ (Device.ready backend = true ∧ use ≠ .closeOutput) := by
  cases comes with
  | unconfigured | attached | refused | kept | created | uncreated => simp [Device.ready, Use.opens]
  | closed => simp [ready_shut, Use.opens]
  | discovered => simp [Use.opens]

/-- No call changes what the backend has been configured to. -/
theorem shut_eq (comes : Comes backend use reply) : reply.device.shut = backend.shut := by
  cases comes with
  | closed => cases backend <;> rfl
  | unconfigured | attached | refused | kept | created | uncreated | discovered => rfl

theorem eq_of_failed (comes : Comes backend use reply) (failed : reply.result ≠ .ok ()) : reply.device = backend := by
  cases comes with
  | attached | kept | created | closed => exact absurd rfl failed
  | unconfigured | refused | uncreated | discovered => rfl

theorem result_of_closed (comes : Comes backend .closeOutput reply) : reply.result = .ok () := by
  cases comes
  rfl

theorem idle_of_discovered {host : Host} {params : Json} (comes : Comes backend (.discover host params) reply) :
    reply.device = backend ∧ reply.effects.attempts = [] ∧ reply.effects.creations = [] := by
  cases comes
  exact ⟨rfl, rfl, rfl⟩

end Comes

/-! ## The two kinds -/

/-- How a file output at a path answers: it goes to its path if it is opened while it is not ready, and never else. -/
structure AnswersAtPath (path : String) (backend : Backend) (use : Use) (reply : Reply Backend Unit) : Prop where
  creations : reply.effects.creations = if use.opens = true ∧ Device.ready backend = false then [path] else []
  attempts : reply.effects.attempts = []
  opened : ∀ host, use = .openOutput host →
    (reply.result = .ok () ↔ Device.ready backend = true ∨ host.createFile path = .ok ())

/-- How an adalight controller answers: whenever it is opened it tries to open its port once, and it fails if it has no
port. -/
structure AnswersAtPort (options : Adalight.Options) (backend : Backend) (use : Use) (reply : Reply Backend Unit) :
    Prop where
  attempts : reply.effects.attempts =
    if use.opens = true then options.output.toList.map (⟨·, options.baudRate, Adalight.openTimeoutMillis⟩) else []
  creations : reply.effects.creations = []
  unconfigured : options.output = none → use.opens = true → reply.result = .error (.notConfigured Adalight.kind)
  opened : ∀ path, options.output = some path → ∀ host, use = .openOutput host →
    (reply.result = .ok () ↔ ∃ name, host.openPort path = .ok name)

theorem Comes.answersAtPath {path : String} (comes : Comes backend use reply)
    (configured : backend.shut = file ⟨path, false⟩) : AnswersAtPath path backend use reply := by
  cases comes with
  | unconfigured | attached | refused => cases configured
  | kept =>
    cases configured
    exact ⟨rfl, rfl, by simp [Device.ready]⟩
  | created done =>
    cases configured
    exact ⟨rfl, rfl, by simp [done]⟩
  | uncreated failed =>
    cases configured
    exact ⟨rfl, rfl, by simp [Device.ready, failed]⟩
  | closed | discovered => exact ⟨rfl, rfl, by simp⟩

theorem Comes.answersAtPort {options : Adalight.Options} (comes : Comes backend use reply)
    (configured : backend.shut = adalight ⟨options, none⟩) : AnswersAtPort options backend use reply := by
  cases comes with
  | kept | created | uncreated => cases configured
  | unconfigured missing =>
    cases configured
    exact ⟨by simp [missing], rfl, fun _ _ => rfl, by simp [missing]⟩
  | attached output done =>
    cases configured
    exact ⟨by simp [output, Use.opens], rfl, by simp [output], by simp [output, done]⟩
  | refused output failed =>
    cases configured
    exact ⟨by simp [output, Use.opens], rfl, by simp [output], by simp [output, failed]⟩
  | closed | discovered => exact ⟨rfl, rfl, by simp [Use.opens], by simp⟩

/-! ## A sequence of calls -/

theorem after_concat (backend : Backend) (uses : List Use) (use : Use) :
    backend.after (uses ++ [use]) = ((backend.after uses).meet use).device := by
  simp [after]

theorem usages_concat (backend : Backend) (uses : List Use) (use : Use) :
    backend.usages (uses ++ [use]) = backend.usages uses ++ [⟨backend.after uses, use⟩] := by
  induction uses generalizing backend with
  | nil => rfl
  | cons first rest ih => exact congrArg (Usage.mk backend first :: ·) (ih (backend.meet first).device)

theorem shut_of_mem_usages {uses : List Use} {usage : Usage} (member : usage ∈ backend.usages uses) :
    usage.before.shut = backend.shut := by
  induction uses generalizing backend with
  | nil => cases member
  | cons use rest ih =>
    rcases List.mem_cons.mp member with rfl | member
    · rfl
    · exact (ih member).trans (comes_meet backend use).shut_eq

theorem ready_after_iff (unready : Device.ready backend = false) (uses : List Use) :
    Device.ready (backend.after uses) = true ↔ OpenedSinceClose (backend.usages uses) := by
  induction uses using List.reverseRecOn with
  | nil =>
    constructor
    · intro ready
      exact absurd (unready.symm.trans ready) (by decide)
    · exact fun opened => absurd opened not_openedSinceClose_nil
  | append_singleton uses use ih =>
    rw [after_concat, usages_concat, openedSinceClose_concat, ← ih]
    exact (comes_meet (backend.after uses) use).ready_iff

/-- Whatever a backend has been built from, and whatever the host lets it do: after any calls it is ready if and only if it
has been opened with success and not been closed since. An opening that fails leaves the backend as it was, ready or not;
closing it succeeds; discovering leaves it as it was and opens nothing. A file output goes to its path just when it is opened
without being ready, and an adalight controller tries its port once for each opening, or fails if it has none. -/
theorem ready_iff_opened_since_close {config : Json} {backend : Backend} {logs : List Log}
    (built : (registry.construct config).result = .ok (backend, logs)) (uses : List Use) :
    (Device.ready (backend.after uses) = true ↔ OpenedSinceClose (backend.usages uses)) ∧
    ∀ usage ∈ backend.usages uses,
      (usage.use.opens = true → usage.reply.result ≠ .ok () →
        Device.ready usage.reply.device = Device.ready usage.before) ∧
      (usage.use = .closeOutput → usage.reply.result = .ok ()) ∧
      (∀ host params, usage.use = .discover host params →
        Device.ready usage.reply.device = Device.ready usage.before ∧
          usage.reply.effects.attempts = [] ∧ usage.reply.effects.creations = []) ∧
      (∀ device, backend = .file device → AnswersAtPath device.path usage.before usage.use usage.reply) ∧
      ∀ device, backend = .adalight device → AnswersAtPort device.options usage.before usage.use usage.reply := by
  have unready : Device.ready backend = false := by
    have outcome := outcome_construct config
    rw [built] at outcome
    cases outcome with
    | built _ _ _ _ unopened => exact unopened
  refine ⟨ready_after_iff unready uses, fun usage member => ?_⟩
  have comes : Comes usage.before usage.use usage.reply := comes_meet usage.before usage.use
  have configured : usage.before.shut = backend.shut := shut_of_mem_usages member
  refine ⟨fun _ failed => ?_, fun closes => ?_, fun host params discovers => ?_, fun device kind => ?_,
    fun device kind => ?_⟩
  · rw [comes.eq_of_failed failed]
  · rw [closes] at comes
    exact comes.result_of_closed
  · rw [discovers] at comes
    obtain ⟨same, attempts, creations⟩ := comes.idle_of_discovered
    exact ⟨congrArg Device.ready same, attempts, creations⟩
  · rw [kind] at configured
    exact comes.answersAtPath configured
  · rw [kind] at configured
    exact comes.answersAtPort configured

/-- A port that is open stays open when the host refuses to open it again, and a file that is open is not created again. -/
theorem ready_iff_opened_since_close_reopened :
    let grants : Host := ⟨.listed [], fun _ => .ok none, fun _ => .ok ()⟩
    let refuses : Host := ⟨.unavailable "unplugged", fun _ => .error "busy", fun _ => .error "full"⟩
    let reopen : List Use := [.openOutput grants, .openOutput refuses]
    (∃ port logs,
      (registry.construct (.object [("output", .string "/dev/ttyACM0"), ("type", .string "adalight")])).result =
        .ok (port, logs) ∧ Device.ready (port.after reopen) = true) ∧
    ∃ output logs,
      (registry.construct (.object [("output", .string "/tmp/leds"), ("type", .string "file")])).result =
        .ok (output, logs) ∧ Device.ready (output.after reopen) = true ∧
      (output.usages reopen).map (·.reply.effects.creations) = [["/tmp/leds"], []] := by
  intro grants refuses reopen
  let port : Backend := adalight ⟨⟨some "/dev/ttyACM0", 2000000, true⟩, none⟩
  let output : Backend := file ⟨"/tmp/leds", false⟩
  -- The first call opens either of them, and the second closes neither.
  have portOpened : OpenedSinceClose (port.usages reopen) :=
    ⟨[], ⟨port, .openOutput grants⟩, [_], rfl, ⟨rfl, rfl⟩, by simp⟩
  have outputOpened : OpenedSinceClose (output.usages reopen) :=
    ⟨[], ⟨output, .openOutput grants⟩, [_], rfl, ⟨rfl, rfl⟩, by simp⟩
  constructor
  · have built : (registry.construct (.object [("output", .string "/dev/ttyACM0"), ("type", .string "adalight")])).result =
      .ok (port, []) := rfl
    exact ⟨port, _, built, (ready_iff_opened_since_close built reopen).1.mpr portOpened⟩
  · have built : (registry.construct (.object [("output", .string "/tmp/leds"), ("type", .string "file")])).result =
      .ok (output, [.debug ("Output filename: " ++ "/tmp/leds")]) := rfl
    obtain ⟨ready, answers⟩ := ready_iff_opened_since_close built reopen
    have first := (answers ⟨output, .openOutput grants⟩ (.head _)).2.2.2.1 _ rfl
    have second := (answers ⟨file ⟨"/tmp/leds", true⟩, .openOutput refuses⟩ (.tail _ (.head _))).2.2.2.1 _ rfl
    refine ⟨output, _, built, ready.mpr outputOpened, ?_⟩
    exact congrArg₂ (fun first second => [first, second]) first.creations second.creations

end Backend

end Discovery
