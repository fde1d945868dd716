import Discovery.Proofs.Dispatcher.Lifecycle
import Discovery.Proofs.Entries
import Discovery.Proofs.Json.Documents
/-!
# Which configurations a backend can be built from

A configuration has to be an object that names a known kind of backend. What else stands in it are options, and all of them
have to be ones that this kind takes. Which of these requirements is missed decides about the error, and the order of the
fields does not. A dispatcher that cannot build its backend has none: its scans of serial ports report nothing and make no
use of the host.
-/
namespace Discovery

/-! ## The options of a kind -/

/-- The options that an adalight controller takes, with their values. -/
inductive Adalight.Takes : String × Json → Prop
  | noOutput : Takes ("output", .null)
  | output (path : String) : Takes ("output", .string path)
  | baudRate {rate : Int} : 0 ≤ rate → rate ≤ 4294967295 → Takes ("baud_rate", .integer rate)
  | includeUnrecognized (value : Bool) : Takes ("include_unrecognized", .boolean value)

/-- The option that a file output takes. -/
inductive FileOutput.Takes : String × Json → Prop
  | output (path : String) : Takes ("output", .string path)

namespace Adalight.Options

theorem decodeOutput_eq_ok_iff {value : Json} {output : Option String} : decodeOutput value = .ok output ↔
    value = .null ∧ output = none ∨ ∃ path, value = .string path ∧ output = some path := by
  cases value with
  | null => simp [decodeOutput, eq_comm]
  | string path => simp [decodeOutput, Json.decodeText, bind, Except.bind, pure, Except.pure, eq_comm]
  | boolean _ | integer _ | float _ | array _ | object _ =>
    simp [decodeOutput, Json.decodeText, Json.wrongType, bind, Except.bind]

/-- What one field does to the options: its value goes where its key says. -/
inductive Sets (options : Options) : String × Json → Options → Prop
  | output {value : Json} {output : Option String} : decodeOutput value = .ok output →
      Sets options ("output", value) { options with output }
  | baudRate {value : Json} {baudRate : Nat} : value.decodeNatural 32 = .ok baudRate →
      Sets options ("baud_rate", value) { options with baudRate }
  | includeUnrecognized {value : Json} {includeUnrecognized : Bool} : value.decodeBoolean = .ok includeUnrecognized →
      Sets options ("include_unrecognized", value) { options with includeUnrecognized }

theorem withField_eq_ok_iff {options next : Options} {field : String × Json} :
    options.withField field = .ok next ↔ Sets options field next := by
  constructor
  · intro taken
    obtain ⟨key, value⟩ := field
    unfold withField at taken
    dsimp only at taken
    split at taken
    next output =>
      subst output
      obtain ⟨path, decoded, same⟩ := Entries.bind_eq_ok_iff.mp taken
      cases same
      exact .output decoded
    next =>
    split at taken
    next baudRate =>
      subst baudRate
      obtain ⟨rate, decoded, same⟩ := Entries.bind_eq_ok_iff.mp taken
      cases same
      exact .baudRate decoded
    next =>
    split at taken
    next includeUnrecognized =>
      subst includeUnrecognized
      obtain ⟨choice, decoded, same⟩ := Entries.bind_eq_ok_iff.mp taken
      cases same
      exact .includeUnrecognized decoded
    next => cases taken
  · intro sets
    cases sets with
    | output decoded => exact Entries.bind_eq_ok_iff.mpr ⟨_, decoded, rfl⟩
    | baudRate decoded => exact Entries.bind_eq_ok_iff.mpr ⟨_, decoded, rfl⟩
    | includeUnrecognized decoded => exact Entries.bind_eq_ok_iff.mpr ⟨_, decoded, rfl⟩

theorem exists_withField_iff (options : Options) (field : String × Json) :
    (∃ next, options.withField field = .ok next) ↔ Takes field := by
  have greatest : (Decimal.twoTo 32 : Nat) = 4294967296 := by decide
  constructor
  · rintro ⟨next, taken⟩
    cases withField_eq_ok_iff.mp taken with
    | output decoded =>
      rcases decodeOutput_eq_ok_iff.mp decoded with ⟨rfl, _⟩ | ⟨path, rfl, _⟩
      · exact .noOutput
      · exact .output path
    | baudRate decoded =>
      obtain ⟨rfl, fits⟩ := Json.decodeNatural_eq_ok_iff.mp decoded
      exact .baudRate (Int.natCast_nonneg _) (by omega)
    | includeUnrecognized decoded =>
      rw [Json.decodeBoolean_eq_ok_iff.mp decoded]
      exact .includeUnrecognized _
  · intro takes
    simp only [withField_eq_ok_iff]
    cases takes with
    | noOutput => exact ⟨_, .output rfl⟩
    | output path => exact ⟨_, .output rfl⟩
    | @baudRate rate least most =>
      -- A rate that is not negative is a number, and one that is not too large fits its 32 bits.
      obtain ⟨number, rfl⟩ := Int.eq_ofNat_of_zero_le least
      exact ⟨_, .baudRate (Json.decodeNatural_eq_ok_iff.mpr ⟨rfl, by omega⟩)⟩
    | includeUnrecognized choice => exact ⟨_, .includeUnrecognized rfl⟩

theorem exchanges_withField : Entries.Exchanges withField := by
  intro options middle last first second differ taken also
  simp only [withField_eq_ok_iff] at taken also ⊢
  -- Fields under different keys set different options, so either of them may be the first.
  cases taken with
  | output decoded =>
    cases also with
    | output => exact absurd rfl differ
    | baudRate other => exact ⟨_, .baudRate other, .output decoded⟩
    | includeUnrecognized other => exact ⟨_, .includeUnrecognized other, .output decoded⟩
  | baudRate decoded =>
    cases also with
    | output other => exact ⟨_, .output other, .baudRate decoded⟩
    | baudRate => exact absurd rfl differ
    | includeUnrecognized other => exact ⟨_, .includeUnrecognized other, .baudRate decoded⟩
  | includeUnrecognized decoded =>
    cases also with
    | output other => exact ⟨_, .output other, .includeUnrecognized decoded⟩
    | baudRate other => exact ⟨_, .baudRate other, .includeUnrecognized decoded⟩
    | includeUnrecognized => exact absurd rfl differ

end Adalight.Options

namespace FileOutput

theorem withField_eq_ok_iff {before after : String} {field : String × Json} :
    withField before field = .ok after ↔ field = ("output", .string after) := by
  obtain ⟨key, value⟩ := field
  rw [withField, Prod.mk.injEq]
  split
  next output => rw [Json.decodeText_eq_ok_iff, and_iff_right output]
  next other =>
    constructor
    · intro failed
      cases failed
    · intro same
      exact absurd same.1 other

theorem exists_withField_iff (before : String) (field : String × Json) :
    (∃ after, withField before field = .ok after) ↔ Takes field := by
  simp only [withField_eq_ok_iff]
  constructor
  · rintro ⟨path, rfl⟩
    exact .output path
  · rintro ⟨path⟩
    exact ⟨path, rfl⟩

theorem exchanges_withField : Entries.Exchanges withField := by
  intro before middle last first second differ taken also
  rw [withField_eq_ok_iff] at taken also
  subst taken also
  exact absurd rfl differ

end FileOutput

/-! ## What a construction comes to -/

namespace Backend

/-- The kinds of backends that there are. -/
def kinds : List String := ["adalight", "file"]

def Takes (kind : String) (field : String × Json) : Prop :=
  (kind = "adalight" ∧ Adalight.Takes field) ∨ (kind = "file" ∧ FileOutput.Takes field)

/-- The configuration is an object that has this text under `type`. -/
def Names (config : Json) (kind : String) : Prop :=
  ∃ fields : Json.Fields, config = .object fields ∧ fields.find? "type" = some (.string kind)

/-- Everything beside `type` is an option that the kind takes. -/
def Fits (config : Json) (kind : String) : Prop :=
  ∀ fields : Json.Fields, config = .object fields → ∀ field ∈ fields, field.1 ≠ "type" → Takes kind field

/-- The constructor of a kind takes the options that the kind takes, in whatever order. If it fails, the options are to
blame, and a device that it builds has not been opened. -/
structure Builds (kind : String) (build : Constructor Backend) : Prop where
  succeeds : ∀ options, (∃ built, build options = .ok built) ↔ ∀ field ∈ options, Takes kind field
  fails : ∀ {options error}, build options = .error error → ∃ cause, error = .invalidConfig kind cause
  fresh : ∀ {options backend logs}, build options = .ok (backend, logs) →
    Device.kind backend = kind ∧ Device.ready backend = false
  ordered : ∀ {options others : Json.Fields} {built}, options.Perm others → (options.map Prod.fst).Nodup →
    build options = .ok built → build others = .ok built

/-- A constructor that decodes its options one by one, and makes a device of what they come to. -/
theorem builds_of_foldlM {σ : Type} {step : σ → String × Json → Except DecodeError σ} {start : σ} {kind : String}
    {build : Constructor Backend} {make : σ → Backend × List Log}
    (decodes : ∀ options, build options = ((options.foldlM step start).mapError (.invalidConfig kind)).map make)
    (taken : ∀ settings field, (∃ next, step settings field = .ok next) ↔ Takes kind field)
    (exchanges : Entries.Exchanges step)
    (fresh : ∀ settings, Device.kind (make settings).1 = kind ∧ Device.ready (make settings).1 = false) :
    Builds kind build := by
  -- The constructor fails and succeeds with the decoding of its options.
  have success : ∀ {options built}, build options = .ok built ↔
      ∃ settings, options.foldlM step start = .ok settings ∧ make settings = built := by
    intro options built
    rw [decodes]
    cases options.foldlM step start with
    | error cause => simp [Except.mapError, Except.map]
    | ok settings => simp [Except.mapError, Except.map]
  constructor
  · intro options
    rw [← Entries.exists_foldlM_eq_ok_iff taken options start]
    constructor
    · rintro ⟨built, done⟩
      obtain ⟨settings, decoded, _⟩ := success.mp done
      exact ⟨settings, decoded⟩
    · rintro ⟨settings, decoded⟩
      exact ⟨make settings, success.mpr ⟨settings, decoded, rfl⟩⟩
  · intro options error failed
    rw [decodes] at failed
    cases decoded : options.foldlM step start with
    | error cause =>
      rw [decoded] at failed
      cases failed
      exact ⟨cause, rfl⟩
    | ok settings =>
      rw [decoded] at failed
      cases failed
  · intro options backend logs built
    obtain ⟨settings, _, same⟩ := success.mp built
    have unopened := fresh settings
    rw [same] at unopened
    exact unopened
  · intro options others built same distinct done
    obtain ⟨settings, decoded, made⟩ := success.mp done
    exact success.mpr ⟨settings, exchanges.foldlM_perm same distinct decoded, made⟩

theorem builds_adalight : Builds "adalight" (constructor adalight Adalight.ofOptions) := by
  apply @builds_of_foldlM _ _ Adalight.Options.default _ _ fun settings => (adalight ⟨settings, none⟩, [])
  · intro options
    unfold constructor Adalight.ofOptions Adalight.Options.ofFields
    cases options.foldlM Adalight.Options.withField .default <;> rfl
  · intro settings field
    rw [Adalight.Options.exists_withField_iff]
    simp [Takes]
  · exact Adalight.Options.exchanges_withField
  · exact fun _ => ⟨rfl, rfl⟩

theorem builds_file : Builds "file" (constructor file FileOutput.ofOptions) := by
  apply @builds_of_foldlM _ _ FileOutput.defaultPath _ _ fun path =>
    (file ⟨path, false⟩, [.debug ("Output filename: " ++ path)])
  · intro options
    unfold constructor FileOutput.ofOptions
    cases options.foldlM FileOutput.withField FileOutput.defaultPath <;> rfl
  · intro path field
    rw [FileOutput.exists_withField_iff]
    simp [Takes]
  · exact FileOutput.exchanges_withField
  · exact fun _ => ⟨rfl, rfl⟩

theorem lookup_registry_of_unknown {kind : String} (unknown : kind ∉ kinds) : registry.lookup kind = none := by
  simp only [kinds, List.mem_cons, List.not_mem_nil, or_false, not_or] at unknown
  obtain ⟨adalight, file⟩ := unknown
  simp only [registry, List.lookup_cons, List.lookup_nil, Adalight.kind, FileOutput.kind, beq_false_of_ne adalight,
    beq_false_of_ne file]

theorem lookup_registry_of_known {kind : String} (known : kind ∈ kinds) :
    ∃ build, registry.lookup kind = some build ∧ Builds kind build := by
  rcases List.mem_pair.mp known with adalight | file
  · subst adalight
    exact ⟨_, rfl, builds_adalight⟩
  · subst file
    exact ⟨_, rfl, builds_file⟩

theorem splitKind?_eq_some {fields : Json.Fields} {kind : String} (found : fields.find? "type" = some (.string kind)) :
    splitKind? (.object fields) = some (kind, fields.erase "type") := by
  simp only [splitKind?, found]

theorem splitKind?_eq_none {config : Json} (unnamed : ∀ kind, ¬ Names config kind) : splitKind? config = none := by
  unfold splitKind?
  split
  next fields =>
    split
    next kind found => exact absurd ⟨fields, rfl, found⟩ (unnamed kind)
    next => rfl
  next => rfl

/-- Under a kind that there is, a construction is left to the constructor of that kind. -/
theorem exists_builds {kind : String} (known : kind ∈ kinds) :
    ∃ build, Builds kind build ∧ ∀ fields : Json.Fields, fields.find? "type" = some (.string kind) →
      (registry.construct (.object fields)).result = build (fields.erase "type") := by
  obtain ⟨build, listed, builds⟩ := lookup_registry_of_known known
  refine ⟨build, builds, fun fields found => ?_⟩
  simp only [Registry.construct, splitKind?_eq_some found, listed]

theorem names_iff {fields : Json.Fields} {kind : String} :
    Names (.object fields) kind ↔ fields.find? "type" = some (.string kind) := by
  constructor
  · rintro ⟨_, same, found⟩
    cases same
    exact found
  · intro found
    exact ⟨fields, rfl, found⟩

theorem fits_iff {fields : Json.Fields} {kind : String} :
    Fits (.object fields) kind ↔ ∀ field ∈ fields.erase "type", Takes kind field := by
  constructor
  · intro fits field member
    obtain ⟨member, other⟩ := List.mem_filter.mp member
    exact fits fields rfl field member (bne_iff_ne.mp other)
  · intro taken own same field member other
    cases same
    exact taken field (List.mem_filter.mpr ⟨member, bne_iff_ne.mpr other⟩)

/-- What a construction can come to, and when. -/
inductive Outcome (config : Json) : Except BackendError (Backend × List Log) → Prop
  | missingKind : (∀ kind, ¬ Names config kind) → Outcome config (.error .missingKind)
  | unknownKind {kind : String} : Names config kind → kind ∉ kinds → Outcome config (.error (.unknownKind kind))
  | invalidConfig {kind : String} (cause : DecodeError) : Names config kind → kind ∈ kinds → ¬ Fits config kind →
      Outcome config (.error (.invalidConfig kind cause))
  | built {backend : Backend} (logs : List Log) : Names config (Device.kind backend) → Device.kind backend ∈ kinds →
      Fits config (Device.kind backend) → Device.ready backend = false → Outcome config (.ok (backend, logs))

theorem outcome_construct (config : Json) : Outcome config (registry.construct config).result := by
  by_cases named : ∃ kind, Names config kind
  · obtain ⟨kind, fields, rfl, found⟩ := named
    have names : Names (.object fields) kind := ⟨fields, rfl, found⟩
    by_cases known : kind ∈ kinds
    · -- Under a known kind, whether the constructor takes its options is whether they fit.
      obtain ⟨build, builds, left⟩ := exists_builds known
      rw [left fields found]
      cases result : build (fields.erase "type") with
      | error error =>
        obtain ⟨cause, rfl⟩ := builds.fails result
        apply Outcome.invalidConfig cause names known
        intro fits
        obtain ⟨built, done⟩ := (builds.succeeds _).mpr (fits_iff.mp fits)
        rw [result] at done
        cases done
      | ok built =>
        obtain ⟨backend, logs⟩ := built
        obtain ⟨rfl, fresh⟩ := builds.fresh result
        exact .built logs names known (fits_iff.mpr ((builds.succeeds _).mp ⟨_, result⟩)) fresh
    · simp only [Registry.construct, splitKind?_eq_some found, lookup_registry_of_unknown known]
      exact .unknownKind names known
  · have unnamed : ∀ kind, ¬ Names config kind := not_exists.mp named
    simp only [Registry.construct, splitKind?_eq_none unnamed]
    exact .missingKind unnamed

theorem Names.unique {config : Json} {kind other : String} (named : Names config kind) (also : Names config other) :
    kind = other := by
  obtain ⟨fields, rfl, found⟩ := named
  rw [names_iff, found] at also
  cases also
  rfl

section Verdicts

variable {config : Json} {kind : String}

end Verdicts

/-! ## The order of fields -/

section Order

variable {fields others : Json.Fields}

end Order

end Backend

/-! ## A dispatcher without a backend -/

/-- Nothing is reported, and no attempt is made to open a serial port. -/
structure Effects.Silent (effects : Effects) : Prop where
  sightings : effects.sightings = []
  attempts : effects.attempts = []

theorem Effects.silent_ofLogs (logs : List Log) : (ofLogs logs).Silent := ⟨rfl, rfl⟩

theorem Effects.Silent.append {first second : Effects} (silent : first.Silent) (also : second.Silent) :
    (first ++ second).Silent where
  sightings := List.append_eq_nil_iff.mpr ⟨silent.sightings, also.sightings⟩
  attempts := List.append_eq_nil_iff.mpr ⟨silent.attempts, also.attempts⟩

/-- All that is called is the constructor of a kind. -/
def Constructs (calls : List BackendCall) : Prop := ∀ call ∈ calls, ∃ kind options, call = .construct kind options

/-- The same incident on another host. -/
def Incident.on (host : Host) : Incident → Incident
  | trigger _ category => trigger host category
  | receive => receive
  | hangUp => hangUp

namespace Dispatcher

variable {δ : Type}

theorem constructs_attempt (construction : Construction δ) : Constructs construction.attempt := by
  intro call member
  obtain ⟨⟨kind, options⟩, _, rfl⟩ := List.mem_map.mp member
  exact ⟨kind, options, rfl⟩

variable [Device δ] {dispatcher : Dispatcher δ}

/-- There is no backend, and none can be built. -/
structure Barren (dispatcher : Dispatcher δ) : Prop where
  failing : ∃ error, dispatcher.construction.result = .error error
  without : ∀ device, dispatcher.serial ≠ .running device

/-- A scan that fails to build a backend says so, a later one says that there is none, and that is all they do. -/
theorem Barren.scanSerial (barren : dispatcher.Barren) :
    ∃ after calls logs, after.Barren ∧ Constructs calls ∧
      ∀ host, dispatcher.scanSerial host = (after, calls, .ofLogs logs) := by
  obtain ⟨error, failing⟩ := barren.failing
  -- The first scan tries to build a backend and gives it up; the later ones do not try again.
  cases backend : dispatcher.serial with
  | unused =>
    have after : Barren { dispatcher with serial := .unavailable } := ⟨⟨error, failing⟩, by simp⟩
    refine ⟨_, dispatcher.construction.attempt, [.error ("Failed to construct serial backend: " ++ error.message)], after,
      constructs_attempt _, fun host => ?_⟩
    unfold construction at failing ⊢
    simp only [Dispatcher.scanSerial, backend, failing, Construction.attempt]
    cases (dispatcher.registry.construct dispatcher.config).given <;> rfl
  | unavailable =>
    refine ⟨dispatcher, [], [.debug "Skipping serial scan, backend unavailable"], barren, by simp [Constructs],
      fun host => ?_⟩
    simp only [Dispatcher.scanSerial, backend]
  | running device => exact absurd backend (barren.without device)

/-- Without a backend nothing that happens is reported, leads to a call but on a constructor, or depends on the host. -/
theorem Barren.meet (barren : dispatcher.Barren) (requests : Channel Category) (incident : Incident) :
    let step := dispatcher.meet requests incident
    step.dispatcher.Barren ∧ Constructs step.calls ∧ step.effects.Silent ∧
      ∀ host, dispatcher.meet requests (incident.on host) = step := by
  have uncalled : Constructs [] := by simp [Constructs]
  cases incident with
  | receive | hangUp => exact ⟨barren, uncalled, ⟨rfl, rfl⟩, fun _ => rfl⟩
  | trigger host category =>
    have asked := Effects.silent_ofLogs [.debug ("Scan requested for " ++ category.label)]
    -- Only a serial scan asks for the backend. What is asked of the others leads to a log line at most.
    cases category with
    | serial =>
      obtain ⟨after, calls, logs, still, constructs, scan⟩ := barren.scanSerial
      simp only [Dispatcher.meet, Incident.on, Dispatcher.trigger, scan]
      exact ⟨still, constructs, asked.append (Effects.silent_ofLogs logs), fun _ => trivial⟩
    | hyperhdr | wled | hue => exact ⟨barren, uncalled, asked.append (Effects.silent_ofLogs _), fun _ => rfl⟩
    | pico | esp32s2 | esp | unknown => exact ⟨barren, uncalled, asked, fun _ => rfl⟩

theorem Barren.live (barren : dispatcher.Barren) (requests : Channel Category) (incidents : List Incident) :
    let life := dispatcher.live requests incidents
    Constructs life.calls ∧ life.effects.Silent ∧
      ∀ host, dispatcher.live requests (incidents.map (.on host)) = life := by
  induction incidents generalizing dispatcher requests with
  | nil => exact ⟨by simp [Constructs, Dispatcher.live], ⟨rfl, rfl⟩, fun _ => rfl⟩
  | cons incident rest ih =>
    -- There is no backend after the incident either, so the rest of the life goes the same way.
    obtain ⟨still, calls, silent, alike⟩ := barren.meet requests incident
    obtain ⟨later, quiet, equal⟩ := ih still (dispatcher.meet requests incident).requests
    refine ⟨List.forall_mem_append.mpr ⟨calls, later⟩, silent.append quiet, fun host => ?_⟩
    simp only [List.map_cons, Dispatcher.live, alike, equal]

end Dispatcher

/-! ## The verdict on a configuration -/

namespace Backend

end Backend

end Discovery
