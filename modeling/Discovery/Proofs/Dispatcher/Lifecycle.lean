import Discovery.Dispatcher
/-!
# The backend in the life of a dispatcher

A dispatcher starts without a backend. The first request for a scan of serial ports builds it or finds that it cannot be
built. From then on only such requests call it, and only the end of the dispatcher closes it. So which calls are made on
backends is told by what the construction comes to and by the hosts on which such requests are served.
-/
namespace Discovery

/-- What happens around a dispatcher: a scan is requested on the host as it is then, the browser takes the oldest of the
requests that it has been passed, or it goes away. -/
inductive Incident where
  | trigger (host : Host) (category : Category)
  | receive
  | hangUp

/-- The host whose serial ports are to be scanned, if that is what is requested. -/
def Incident.scanned? : Incident → Option Host
  | trigger host .serial => some host
  | trigger _ _ | receive | hangUp => none

variable {δ : Type}

/-- The call on a constructor in a construction, if it has come that far. -/
def Construction.attempt (construction : Construction δ) : List BackendCall :=
  construction.given.toList.map fun (kind, options) => .construct kind options

variable [Device δ]

/-- The device after a discovery on each of the hosts, whether these succeed or not. -/
def discovered (device : δ) (hosts : List Host) : δ :=
  hosts.foldl (fun device host => (Device.discover host Dispatcher.params device).device) device

/-- The calls for a discovery on each of the hosts. -/
def discoveries (device : δ) : List Host → List BackendCall
  | [] => []
  | host :: rest =>
    .discover (Device.kind device) Dispatcher.params :: discoveries (Device.discover host Dispatcher.params device).device rest

theorem discovered_concat (device : δ) (hosts : List Host) (host : Host) :
    discovered device (hosts ++ [host]) = (Device.discover host Dispatcher.params (discovered device hosts)).device := by
  simp [discovered]

theorem discoveries_concat (device : δ) (hosts : List Host) (host : Host) :
    discoveries device (hosts ++ [host]) =
      discoveries device hosts ++ [.discover (Device.kind (discovered device hosts)) Dispatcher.params] := by
  induction hosts generalizing device with
  | nil => rfl
  | cons first rest ih => simp only [List.cons_append, discoveries, ih, discovered, List.foldl_cons]

/-- The calls of one scan of serial ports after those on the hosts: a construction the first time, and a discovery if there
is a backend then. -/
def Construction.scan (construction : Construction δ) (hosts : List Host) : List BackendCall :=
  (if hosts = [] then construction.attempt else []) ++
    match construction.result with
    | .ok (device, _) => [.discover (Device.kind (discovered device hosts)) Dispatcher.params]
    | .error _ => []

/-- The backend after scans on the hosts and the calls that have been made on it, by what its construction comes to. -/
inductive Lived (construction : Construction δ) : List Host → SerialBackend δ → List BackendCall → Prop
  | unused : Lived construction [] .unused []
  | failed {error : BackendError} {hosts : List Host} : construction.result = .error error → hosts ≠ [] →
      Lived construction hosts .unavailable construction.attempt
  | running {device : δ} {logs : List Log} {hosts : List Host} : construction.result = .ok (device, logs) → hosts ≠ [] →
      Lived construction hosts (.running (discovered device hosts)) (construction.attempt ++ discoveries device hosts)

/-- The calls on backends from the start of a dispatcher to its end and those at its end, after scans on the hosts. -/
inductive Lifecycle (construction : Construction δ) : List Host → List BackendCall → List BackendCall → Prop
  | unused : Lifecycle construction [] [] []
  | failed {error : BackendError} {hosts : List Host} : construction.result = .error error → hosts ≠ [] →
      Lifecycle construction hosts construction.attempt []
  | closed {device : δ} {logs : List Log} {hosts : List Host} : construction.result = .ok (device, logs) → hosts ≠ [] →
      Lifecycle construction hosts (construction.attempt ++ discoveries device hosts)
        [.close (Device.kind (discovered device hosts))]

namespace Dispatcher

/-- A dispatcher that has not scanned any serial ports. -/
def unused (registry : Registry δ) (config : Json) : Dispatcher δ := ⟨registry, config, .unused⟩

def meet (dispatcher : Dispatcher δ) (requests : Channel Category) : Incident → Dispatch δ
  | .trigger host category => dispatcher.trigger requests host category
  | .receive =>
    let left := match requests.receive? with
      | some (_, left) => left
      | none => requests
    ⟨dispatcher, left, [], .none⟩
  | .hangUp => ⟨dispatcher, requests.close, [], .none⟩

def live (dispatcher : Dispatcher δ) (requests : Channel Category) : List Incident → Dispatch δ
  | [] => ⟨dispatcher, requests, [], .none⟩
  | incident :: rest =>
    let first := dispatcher.meet requests incident
    let last := first.dispatcher.live first.requests rest
    { last with calls := first.calls ++ last.calls, effects := first.effects ++ last.effects }

/-- What building the backend comes to, whenever that is. -/
def construction (dispatcher : Dispatcher δ) : Construction δ := dispatcher.registry.construct dispatcher.config

variable {dispatcher : Dispatcher δ} {hosts : List Host} {calls : List BackendCall}

/-! ## One scan -/

theorem construction_scanSerial (dispatcher : Dispatcher δ) (host : Host) :
    (dispatcher.scanSerial host).1.construction = dispatcher.construction := by
  unfold scanSerial
  split
  · rfl
  · rfl
  · dsimp only
    split <;> rfl

theorem scanSerial_of_failure (backend : dispatcher.serial = .unused) {error : BackendError}
    (failure : dispatcher.construction.result = .error error) (host : Host) :
    (dispatcher.scanSerial host).1.serial = .unavailable ∧
      (dispatcher.scanSerial host).2.1 = dispatcher.construction.attempt := by
  unfold construction at failure ⊢
  simp only [scanSerial, backend, failure, Construction.attempt, true_and]
  cases (dispatcher.registry.construct dispatcher.config).given <;> rfl

theorem scanSerial_of_built (backend : dispatcher.serial = .unused) {device : δ} {logs : List Log}
    (built : dispatcher.construction.result = .ok (device, logs)) (host : Host) :
    (dispatcher.scanSerial host).1.serial = .running (discovered device [host]) ∧
      (dispatcher.scanSerial host).2.1 = dispatcher.construction.attempt ++ discoveries device [host] := by
  unfold construction at built ⊢
  simp only [scanSerial, backend, built, Construction.attempt]
  cases (dispatcher.registry.construct dispatcher.config).given <;> exact ⟨rfl, rfl⟩

/-- A scan continues the life of a backend, by the calls of a scan. -/
theorem lived_scanSerial (lived : Lived dispatcher.construction hosts dispatcher.serial calls) (host : Host) :
    Lived dispatcher.construction (hosts ++ [host]) (dispatcher.scanSerial host).1.serial
        (calls ++ (dispatcher.scanSerial host).2.1) ∧
      (dispatcher.scanSerial host).2.1 = dispatcher.construction.scan hosts := by
  have asked : hosts ++ [host] ≠ [] := List.concat_ne_nil host hosts
  generalize backend : dispatcher.serial = serial at lived
  cases lived with
  | unused =>
    -- The first scan constructs, and goes on only with what it gets.
    cases built : dispatcher.construction.result with
    | error error =>
      obtain ⟨after, made⟩ := scanSerial_of_failure backend built host
      rw [after, made]
      exact ⟨.failed built asked, by simp [Construction.scan, built]⟩
    | ok result =>
      obtain ⟨device, logs⟩ := result
      obtain ⟨after, made⟩ := scanSerial_of_built backend built host
      rw [after, made]
      exact ⟨.running built asked, by simp [Construction.scan, built, discoveries, discovered]⟩
  | failed failure used =>
    -- A construction that has failed is not repeated.
    simp only [scanSerial, backend, List.append_nil]
    exact ⟨.failed failure asked, by simp [Construction.scan, failure, used]⟩
  | @running device logs _ built used =>
    have after : (dispatcher.scanSerial host).1.serial = .running (discovered device (hosts ++ [host])) := by
      simp only [scanSerial, backend, runDiscovery, discovered_concat]
    have made : (dispatcher.scanSerial host).2.1 =
        [.discover (Device.kind (discovered device hosts)) params] := by
      simp only [scanSerial, backend, runDiscovery]
    -- The discovery is one more, on the device that those before it have left.
    rw [after, made, List.append_assoc, ← discoveries_concat]
    exact ⟨.running built asked, by simp [Construction.scan, built, used]⟩

/-- A backend that could not be built is not tried again, and the log says so. -/
theorem scanSerial_of_unavailable (lived : Lived dispatcher.construction hosts dispatcher.serial calls) (used : hosts ≠ [])
    {error : BackendError} (failure : dispatcher.construction.result = .error error) (host : Host) :
    dispatcher.scanSerial host = (dispatcher, [], .ofLogs [.debug "Skipping serial scan, backend unavailable"]) := by
  generalize backend : dispatcher.serial = serial at lived
  cases lived with
  | unused => exact absurd rfl used
  | failed => simp only [scanSerial, backend]
  | running built =>
    rw [failure] at built
    cases built

/-! ## Whole lives -/

/-- Only a scan of serial ports calls a backend, changes it or reports a sighting. -/
theorem trigger_of_other {category : Category} (other : category ≠ .serial) (dispatcher : Dispatcher δ)
    (requests : Channel Category) (host : Host) :
    (dispatcher.trigger requests host category).dispatcher = dispatcher ∧
      (dispatcher.trigger requests host category).calls = [] ∧
      (dispatcher.trigger requests host category).effects.sightings = [] := by
  cases category with
  | serial => exact absurd rfl other
  | hyperhdr | wled | hue | pico | esp32s2 | esp | unknown => exact ⟨rfl, rfl, rfl⟩

theorem lived_meet (lived : Lived dispatcher.construction hosts dispatcher.serial calls) (requests : Channel Category)
    (incident : Incident) :
    let step := dispatcher.meet requests incident
    step.dispatcher.construction = dispatcher.construction ∧
      Lived dispatcher.construction (hosts ++ incident.scanned?.toList) step.dispatcher.serial (calls ++ step.calls) := by
  have unmoved : Lived dispatcher.construction (hosts ++ []) dispatcher.serial (calls ++ []) := by
    simpa only [List.append_nil] using lived
  cases incident with
  | receive | hangUp => exact ⟨rfl, unmoved⟩
  | trigger host category =>
    by_cases serial : category = .serial
    · subst serial
      exact ⟨construction_scanSerial dispatcher host, (lived_scanSerial lived host).1⟩
    · obtain ⟨same, silent, _⟩ := trigger_of_other serial dispatcher requests host
      have unasked : (Incident.trigger host category).scanned? = none := by
        cases category with
        | serial => exact absurd rfl serial
        | hyperhdr | wled | hue | pico | esp32s2 | esp | unknown => rfl
      simp only [meet, same, silent, unasked, true_and]
      exact unmoved

theorem lived_live (lived : Lived dispatcher.construction hosts dispatcher.serial calls) (requests : Channel Category)
    (incidents : List Incident) :
    let life := dispatcher.live requests incidents
    life.dispatcher.construction = dispatcher.construction ∧
      Lived dispatcher.construction (hosts ++ incidents.filterMap Incident.scanned?) life.dispatcher.serial
        (calls ++ life.calls) := by
  induction incidents generalizing dispatcher requests hosts calls with
  | nil => exact ⟨rfl, by simpa [live] using lived⟩
  | cons incident rest ih =>
    obtain ⟨same, first⟩ := lived_meet lived requests incident
    obtain ⟨kept, last⟩ := ih (same ▸ first) (dispatcher.meet requests incident).requests
    refine ⟨kept.trans same, ?_⟩
    rw [same] at last
    simp only [live]
    cases scanned : incident.scanned? with
    | none => simpa [scanned] using last
    | some host => simpa [scanned] using last

theorem lifecycle_of_lived {construction : Construction δ} (lived : Lived construction hosts dispatcher.serial calls) :
    Lifecycle construction hosts calls dispatcher.close.1 := by
  generalize backend : dispatcher.serial = serial at lived
  cases lived with
  | unused => simpa only [close, backend] using Lifecycle.unused
  | failed failure used => simpa only [close, backend] using Lifecycle.failed failure used
  | running built used => simpa only [close, backend] using Lifecycle.closed built used

/-- Whatever happens around a dispatcher, the calls on backends are at most one construction, then, if it has succeeded, a
discovery for each request for a scan of serial ports, and one closing at the end. Whatever has happened, the next such
request makes its calls itself, whether the discoveries before it have succeeded or not. After a construction that has failed
it does nothing but say so. A request for any other category leaves the backend alone and reports no sighting. -/
theorem backend_lifecycle (registry : Registry δ) (config : Json) (requests : Channel Category) (incidents : List Incident) :
    let construction := registry.construct config
    let life := (unused registry config).live requests incidents
    let hosts := incidents.filterMap Incident.scanned?
    Lifecycle construction hosts life.calls life.dispatcher.close.1 ∧
    ∀ host category,
      let step := life.dispatcher.trigger life.requests host category
      (category = .serial → step.calls = construction.scan hosts) ∧
      (category = .serial → hosts ≠ [] → ∀ error, construction.result = .error error →
        step.dispatcher = life.dispatcher ∧
        step.effects = .ofLogs [.debug ("Scan requested for " ++ category.label),
          .debug "Skipping serial scan, backend unavailable"]) ∧
      (category ≠ .serial → step.dispatcher = life.dispatcher ∧ step.calls = [] ∧ step.effects.sightings = []) := by
  intro construction life hosts
  have start : Lived (unused registry config).construction [] (unused registry config).serial [] := .unused
  obtain ⟨same, past⟩ := lived_live start requests incidents
  have own : life.dispatcher.construction = construction := same
  have lived : Lived life.dispatcher.construction hosts life.dispatcher.serial life.calls := own ▸ past
  constructor
  · exact lifecycle_of_lived past
  · intro host category step
    refine ⟨?_, ?_, ?_⟩
    · rintro rfl
      exact (lived_scanSerial lived host).2.trans (congrArg (·.scan hosts) own)
    · rintro rfl used error failure
      have skipped := scanSerial_of_unavailable lived used (own ▸ failure) host
      simp only [step, trigger, skipped, true_and]
      rfl
    · intro other
      exact trigger_of_other other life.dispatcher life.requests host

end Dispatcher

end Discovery
