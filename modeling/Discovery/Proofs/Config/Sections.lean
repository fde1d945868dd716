import Discovery.Config.Reader
import Discovery.Proofs.Entries
import Mathlib.Logic.Relation
/-!
# Entries that say nothing new

Every section and most of its keys may be absent from a configuration. What an absent one stands for can be written out
instead, and keys that no section knows can be added anywhere, without any difference to what the configuration comes to,
be it settings or a fault.
-/
namespace Discovery

open Toml (Table Value)
open Entries (Keeps)

/-- The entries without effect of a section that is decoded by `step` from the settings `start` on: those under keys that
it does not know, and those that give a key the value which it has without them. -/
structure Tolerates {σ : Type} (step : σ → String × Value → Except DecodeError σ) (start : σ) (known : List String)
    (standard : Table) : Prop where
  unknown : ∀ settings {entry : String × Value}, entry.1 ∉ known → step settings entry = .ok settings
  standard : ∀ {front : Table} {entry : String × Value} {settings : σ}, entry ∈ standard → entry.1 ∉ front.map Prod.fst →
    front.foldlM step start = .ok settings → step settings entry = .ok settings

theorem Tolerates.foldlM_insert {σ : Type} {step : σ → String × Value → Except DecodeError σ} {start : σ}
    {known : List String} {standard : Table} (tolerates : Tolerates step start known standard) {front back : Table}
    {entry : String × Value} (idle : entry.1 ∉ known ∨ entry ∈ standard ∧ entry.1 ∉ (front ++ back).map Prod.fst) :
    (front ++ entry :: back).foldlM step start = (front ++ back).foldlM step start := by
  apply Entries.foldlM_insert
  intro settings decoded
  -- A standard entry has no effect only where its key has not been given in front of it.
  rcases idle with foreign | ⟨listed, absent⟩
  · exact tolerates.unknown settings foreign
  · rw [List.map_append, List.mem_append, not_or] at absent
    exact tolerates.standard listed absent.1 decoded

/-! ## The sections one by one -/

namespace DiscoverySettings

/-- What one entry does to the settings. -/
inductive Sets (settings : DiscoverySettings) : String × Value → DiscoverySettings → Prop
  | ttlWindow {value : Value} {ttlWindow : Nat} : value.decodeNatural 64 = .ok ttlWindow →
      Sets settings ("ttl_window_secs", value) { settings with ttlWindow }
  | maintenanceInterval {value : Value} {maintenanceInterval : Nat} : value.decodeNatural 64 = .ok maintenanceInterval →
      Sets settings ("maintenance_interval_secs", value) { settings with maintenanceInterval }
  | interface {value : Value} {name : String} : value.decodeText = .ok name →
      Sets settings ("interface", value) { settings with interface := some name }
  | unknown {entry : String × Value} : entry.1 ∉ fields → Sets settings entry settings

theorem sets_of_withEntry {settings next : DiscoverySettings} {entry : String × Value}
    (taken : settings.withEntry entry = .ok next) : settings.Sets entry next := by
  unfold withEntry at taken
  split at taken
  next value =>
    obtain ⟨window, decoded, same⟩ := Entries.bind_eq_ok_iff.mp taken
    cases same
    exact .ttlWindow decoded
  next value =>
    obtain ⟨interval, decoded, same⟩ := Entries.bind_eq_ok_iff.mp taken
    cases same
    exact .maintenanceInterval decoded
  next value =>
    obtain ⟨name, decoded, same⟩ := Entries.bind_eq_ok_iff.mp taken
    cases same
    exact .interface decoded
  next window interval interface =>
    -- The last alternative is left for keys that are none of the section's.
    cases taken
    apply Sets.unknown
    intro known
    simp only [fields, List.mem_cons, List.not_mem_nil, or_false] at known
    rcases known with same | same | same
    · exact window entry.2 (Prod.ext same rfl)
    · exact interval entry.2 (Prod.ext same rfl)
    · exact interface entry.2 (Prod.ext same rfl)

theorem keeps_ttlWindow : Keeps withEntry "ttl_window_secs" ttlWindow := by
  intro settings next entry taken other
  cases sets_of_withEntry taken with
  | ttlWindow => exact absurd rfl other
  | maintenanceInterval | interface | unknown => rfl

theorem keeps_maintenanceInterval : Keeps withEntry "maintenance_interval_secs" maintenanceInterval := by
  intro settings next entry taken other
  cases sets_of_withEntry taken with
  | maintenanceInterval => exact absurd rfl other
  | ttlWindow | interface | unknown => rfl

theorem tolerates : Tolerates withEntry default fields
    [("ttl_window_secs", .integer 120), ("maintenance_interval_secs", .integer 30)] where
  unknown := by
    intro settings entry foreign
    unfold withEntry
    split
    · exact absurd (by simp [fields]) foreign
    · exact absurd (by simp [fields]) foreign
    · exact absurd (by simp [fields]) foreign
    · rfl
  standard := by
    intro front entry settings listed absent decoded
    -- Nothing in front has the key, so that its part is still the default and is set to what it is.
    rcases List.mem_pair.mp listed with window | interval
    · subst window
      have still : settings.ttlWindow = 120 := keeps_ttlWindow.foldlM_of_absent absent decoded
      show Except.ok { settings with ttlWindow := 120 } = Except.ok settings
      rw [← still]
    · subst interval
      have still : settings.maintenanceInterval = 30 := keeps_maintenanceInterval.foldlM_of_absent absent decoded
      show Except.ok { settings with maintenanceInterval := 30 } = Except.ok settings
      rw [← still]

end DiscoverySettings

namespace AdvertiseSettings

/-- What one entry does to the settings. -/
inductive Sets (settings : AdvertiseSettings) : String × Value → AdvertiseSettings → Prop
  | enabled {value : Value} {enabled : Bool} : value.decodeBoolean = .ok enabled →
      Sets settings ("enabled", value) { settings with enabled }
  | instanceName {value : Value} {name : String} : value.decodeText = .ok name →
      Sets settings ("instance_name", value) { settings with instanceName := some name }
  | port {value : Value} {number : Nat} : value.decodeNatural 16 = .ok number →
      Sets settings ("port", value) { settings with port := UInt16.ofNat number }
  | unknown {entry : String × Value} : entry.1 ∉ fields → Sets settings entry settings

theorem sets_of_withEntry {settings next : AdvertiseSettings} {entry : String × Value}
    (taken : settings.withEntry entry = .ok next) : settings.Sets entry next := by
  unfold withEntry at taken
  split at taken
  next value =>
    obtain ⟨enabled, decoded, same⟩ := Entries.bind_eq_ok_iff.mp taken
    cases same
    exact .enabled decoded
  next value =>
    obtain ⟨name, decoded, same⟩ := Entries.bind_eq_ok_iff.mp taken
    cases same
    exact .instanceName decoded
  next value =>
    obtain ⟨number, decoded, same⟩ := Entries.bind_eq_ok_iff.mp taken
    cases same
    exact .port decoded
  next enabled instanceName port =>
    cases taken
    apply Sets.unknown
    intro known
    simp only [fields, List.mem_cons, List.not_mem_nil, or_false] at known
    rcases known with same | same | same
    · exact enabled entry.2 (Prod.ext same rfl)
    · exact instanceName entry.2 (Prod.ext same rfl)
    · exact port entry.2 (Prod.ext same rfl)

theorem keeps_enabled : Keeps withEntry "enabled" enabled := by
  intro settings next entry taken other
  cases sets_of_withEntry taken with
  | enabled => exact absurd rfl other
  | instanceName | port | unknown => rfl

theorem keeps_port : Keeps withEntry "port" port := by
  intro settings next entry taken other
  cases sets_of_withEntry taken with
  | port => exact absurd rfl other
  | enabled | instanceName | unknown => rfl

theorem tolerates : Tolerates withEntry default fields [("enabled", .boolean true), ("port", .integer 8090)] where
  unknown := by
    intro settings entry foreign
    unfold withEntry
    split
    · exact absurd (by simp [fields]) foreign
    · exact absurd (by simp [fields]) foreign
    · exact absurd (by simp [fields]) foreign
    · rfl
  standard := by
    intro front entry settings listed absent decoded
    rcases List.mem_pair.mp listed with enabled | port
    · subst enabled
      have still : settings.enabled = true := keeps_enabled.foldlM_of_absent absent decoded
      show Except.ok { settings with enabled := true } = Except.ok settings
      rw [← still]
    · subst port
      have still : settings.port = 8090 := keeps_port.foldlM_of_absent absent decoded
      show Except.ok { settings with port := 8090 } = Except.ok settings
      rw [← still]

end AdvertiseSettings

namespace ApiSettings

theorem keeps_listen : Keeps withEntry "listen" listen := by
  intro settings next entry taken other
  unfold withEntry at taken
  split at taken
  next => exact absurd rfl other
  next =>
    cases taken
    rfl

theorem tolerates : Tolerates withEntry default fields [("listen", .text "[::]:8091")] where
  unknown := by
    intro settings entry foreign
    unfold withEntry
    split
    · exact absurd (by simp [fields]) foreign
    · rfl
  standard := by
    intro front entry settings listed absent decoded
    cases List.mem_singleton.mp listed
    have still : settings.listen = "[::]:8091" := keeps_listen.foldlM_of_absent absent decoded
    show Except.ok { settings with listen := "[::]:8091" } = Except.ok settings
    rw [← still]

end ApiSettings

/-! ## The sections together -/

namespace Config

/-- The sections of a configuration. -/
def sections : List String := ["discovery", "advertise", "serial", "api"]

/-- What one entry does to the configuration. -/
inductive Sets (config : Config) : String × Value → Config → Prop
  | discovery {value : Value} {discovery : DiscoverySettings} : DiscoverySettings.ofValue value = .ok discovery →
      Sets config ("discovery", value) { config with discovery }
  | advertise {value : Value} {advertise : AdvertiseSettings} : AdvertiseSettings.ofValue value = .ok advertise →
      Sets config ("advertise", value) { config with advertise }
  | serial {value : Value} {serial : Table} : value.tableEntries = .ok serial →
      Sets config ("serial", value) { config with serial }
  | api {value : Value} {api : ApiSettings} : ApiSettings.ofValue value = .ok api →
      Sets config ("api", value) { config with api }
  | unknown {entry : String × Value} : entry.1 ∉ sections → Sets config entry config

theorem sets_of_withEntry {config next : Config} {entry : String × Value} (taken : config.withEntry entry = .ok next) :
    config.Sets entry next := by
  unfold withEntry at taken
  split at taken
  next value =>
    obtain ⟨discovery, decoded, same⟩ := Entries.bind_eq_ok_iff.mp taken
    cases same
    exact .discovery decoded
  next value =>
    obtain ⟨advertise, decoded, same⟩ := Entries.bind_eq_ok_iff.mp taken
    cases same
    exact .advertise decoded
  next value =>
    obtain ⟨serial, decoded, same⟩ := Entries.bind_eq_ok_iff.mp taken
    cases same
    exact .serial decoded
  next value =>
    obtain ⟨api, decoded, same⟩ := Entries.bind_eq_ok_iff.mp taken
    cases same
    exact .api decoded
  next discovery advertise serial api =>
    cases taken
    apply Sets.unknown
    intro known
    simp only [sections, List.mem_cons, List.not_mem_nil, or_false] at known
    rcases known with same | same | same | same
    · exact discovery entry.2 (Prod.ext same rfl)
    · exact advertise entry.2 (Prod.ext same rfl)
    · exact serial entry.2 (Prod.ext same rfl)
    · exact api entry.2 (Prod.ext same rfl)

theorem keeps_discovery : Keeps withEntry "discovery" discovery := by
  intro config next entry taken other
  cases sets_of_withEntry taken with
  | discovery => exact absurd rfl other
  | advertise | serial | api | unknown => rfl

theorem keeps_advertise : Keeps withEntry "advertise" advertise := by
  intro config next entry taken other
  cases sets_of_withEntry taken with
  | advertise => exact absurd rfl other
  | discovery | serial | api | unknown => rfl

theorem keeps_serial : Keeps withEntry "serial" serial := by
  intro config next entry taken other
  cases sets_of_withEntry taken with
  | serial => exact absurd rfl other
  | discovery | advertise | api | unknown => rfl

theorem keeps_api : Keeps withEntry "api" api := by
  intro config next entry taken other
  cases sets_of_withEntry taken with
  | api => exact absurd rfl other
  | discovery | advertise | serial | unknown => rfl

/-- An empty section leaves the configuration alone as long as it is the only one of its name, the serial section apart. -/
theorem tolerates : Tolerates withEntry default sections
    [("discovery", .table []), ("advertise", .table []), ("api", .table [])] where
  unknown := by
    intro config entry foreign
    unfold withEntry
    split
    · exact absurd (by simp [sections]) foreign
    · exact absurd (by simp [sections]) foreign
    · exact absurd (by simp [sections]) foreign
    · exact absurd (by simp [sections]) foreign
    · rfl
  standard := by
    intro front entry config listed absent decoded
    simp only [List.mem_cons, List.not_mem_nil, or_false] at listed
    rcases listed with discovery | advertise | api
    · subst discovery
      have still : config.discovery = .default := keeps_discovery.foldlM_of_absent absent decoded
      show Except.ok { config with discovery := .default } = Except.ok config
      rw [← still]
    · subst advertise
      have still : config.advertise = .default := keeps_advertise.foldlM_of_absent absent decoded
      show Except.ok { config with advertise := .default } = Except.ok config
      rw [← still]
    · subst api
      have still : config.api = .default := keeps_api.foldlM_of_absent absent decoded
      show Except.ok { config with api := .default } = Except.ok config
      rw [← still]

/-! ## Additions -/

/-- The keys of the sections that have a fixed set of keys. -/
def known : String → List String
  | "discovery" => DiscoverySettings.fields
  | "advertise" => AdvertiseSettings.fields
  | "api" => ApiSettings.fields
  | _ => []

/-- The values that absent keys of these sections stand for, where there is one. -/
def standard : String → Table
  | "discovery" => [("ttl_window_secs", .integer 120), ("maintenance_interval_secs", .integer 30)]
  | "advertise" => [("enabled", .boolean true), ("port", .integer 8090)]
  | "api" => [("listen", .text "[::]:8091")]
  | _ => []

/-- One entry more in a table that says nothing new: an empty section that was absent, the value of an absent key that it
has anyway, or a key that is not known where it stands. -/
inductive Adds : Table → Table → Prop
  | emptySection {front back : Table} {name : String} : name ∈ sections → name ∉ (front ++ back).map Prod.fst →
      Adds (front ++ back) (front ++ (name, .table []) :: back)
  | unknownSection {front back : Table} {entry : String × Value} : entry.1 ∉ sections →
      Adds (front ++ back) (front ++ entry :: back)
  | standard {front back inner outer : Table} {name : String} {entry : String × Value} :
      name ∈ ["discovery", "advertise", "api"] → entry ∈ standard name → entry.1 ∉ (inner ++ outer).map Prod.fst →
      Adds (front ++ (name, .table (inner ++ outer)) :: back) (front ++ (name, .table (inner ++ entry :: outer)) :: back)
  | unknownKey {front back inner outer : Table} {name : String} {entry : String × Value} :
      name ∈ ["discovery", "advertise", "api"] → entry.1 ∉ known name →
      Adds (front ++ (name, .table (inner ++ outer)) :: back) (front ++ (name, .table (inner ++ entry :: outer)) :: back)

/-- A section comes to the same with an entry that says nothing new. -/
theorem withEntry_insert {name : String} (fixed : name ∈ ["discovery", "advertise", "api"]) {inner outer : Table}
    {entry : String × Value}
    (idle : entry.1 ∉ known name ∨ entry ∈ standard name ∧ entry.1 ∉ (inner ++ outer).map Prod.fst) (config : Config) :
    config.withEntry (name, .table (inner ++ entry :: outer)) = config.withEntry (name, .table (inner ++ outer)) := by
  -- Each section is decoded by a step of its own, which tolerates the entry.
  simp only [List.mem_cons, List.not_mem_nil, or_false] at fixed
  rcases fixed with discovery | advertise | api
  · subst discovery
    have same : DiscoverySettings.ofValue (.table (inner ++ entry :: outer)) =
        DiscoverySettings.ofValue (.table (inner ++ outer)) :=
      DiscoverySettings.tolerates.foldlM_insert idle
    simp only [withEntry, same]
  · subst advertise
    have same : AdvertiseSettings.ofValue (.table (inner ++ entry :: outer)) =
        AdvertiseSettings.ofValue (.table (inner ++ outer)) :=
      AdvertiseSettings.tolerates.foldlM_insert idle
    simp only [withEntry, same]
  · subst api
    have same : ApiSettings.ofValue (.table (inner ++ entry :: outer)) =
        ApiSettings.ofValue (.table (inner ++ outer)) :=
      ApiSettings.tolerates.foldlM_insert idle
    simp only [withEntry, same]

/-! ## The serial section -/

/-- The configuration with what an empty serial section stands for. -/
def settled (config : Config) : Config :=
  { config with serial := if config.serial.isEmpty then defaultSerial else config.serial }

theorem check_eq_ok_iff {config checked : Config} : check config = .ok checked ↔ config = checked ∧
    1 ≤ config.discovery.ttlWindow ∧ config.discovery.ttlWindow ≤ DiscoverySettings.greatestWindow := by
  simp only [check]
  split
  next within => simp [within]
  next outside => simp [outside]

theorem ofTable_eq (table : Table) :
    ofTable table = ((table.foldlM withEntry default).mapError .data).bind fun config => check config.settled := by
  unfold ofTable
  cases table.foldlM withEntry default <;> rfl

/-- The serial section of the other configuration is empty, where this one has the default in its place. -/
structure Emptied (config other : Config) : Prop where
  default : config.serial = defaultSerial
  empty : other = { config with serial := [] }

theorem Emptied.settled_eq {config other : Config} (emptied : Emptied config other) : other.settled = config.settled := by
  obtain ⟨standard, rfl⟩ := emptied
  simp only [settled, standard]
  rfl

/-- Entries of other sections do not care which it is. -/
theorem Emptied.withEntry {config other : Config} (emptied : Emptied config other) {entry : String × Value}
    (foreign : entry.1 ≠ "serial") : Entries.Alike Emptied (config.withEntry entry) (other.withEntry entry) := by
  obtain ⟨standard, rfl⟩ := emptied
  -- No other section looks at the serial one, so it can be emptied after the entry as well as before it.
  have general : (Config.withEntry { config with serial := [] } entry) =
      (config.withEntry entry).map fun next => { next with serial := [] } := by
    unfold Config.withEntry
    split
    next value => cases DiscoverySettings.ofValue value <;> rfl
    next value => cases AdvertiseSettings.ofValue value <;> rfl
    next value => exact absurd rfl foreign
    next value => cases ApiSettings.ofValue value <;> rfl
    next => rfl
  rw [general]
  cases taken : config.withEntry entry with
  | error fault => exact .error fault
  | ok next => exact .ok ⟨(keeps_serial taken foreign).trans standard, rfl⟩

/-- An empty serial section takes the default away, and when all entries have been read the default is put back. -/
theorem ofTable_insert_serial {front back : Table} (absent : "serial" ∉ (front ++ back).map Prod.fst) :
    ofTable (front ++ ("serial", .table []) :: back) = ofTable (front ++ back) := by
  rw [List.map_append, List.mem_append, not_or] at absent
  rw [ofTable_eq, ofTable_eq, List.foldlM_append, List.foldlM_append]
  cases decoded : front.foldlM Config.withEntry default with
  | error fault => rfl
  | ok config =>
    have emptied : Emptied config { config with serial := [] } :=
      ⟨keeps_serial.foldlM_of_absent absent.1 decoded, rfl⟩
    have each : ∀ entry ∈ back, ∀ {config other : Config}, Emptied config other →
        Entries.Alike Emptied (config.withEntry entry) (other.withEntry entry) := by
      intro entry member config other emptied
      apply emptied.withEntry
      intro same
      exact absent.2 (same ▸ List.mem_map_of_mem member)
    -- The two readings go on side by side, and either ends with the same fault or is settled to the same.
    have alike := Entries.alike_foldlM each emptied
    show ((back.foldlM Config.withEntry { config with serial := [] }).mapError _).bind _ =
      ((back.foldlM Config.withEntry config).mapError _).bind _
    generalize back.foldlM Config.withEntry config = first at alike ⊢
    generalize back.foldlM Config.withEntry { config with serial := [] } = second at alike ⊢
    cases alike with
    | error fault => rfl
    | ok related => exact congrArg check related.settled_eq

/-! ## All additions -/

/-- One more entry that says nothing new leaves what a table comes to as it is. -/
theorem ofTable_of_adds {table extended : Table} (adds : Adds table extended) : ofTable extended = ofTable table := by
  cases adds with
  | @emptySection front back name listed absent =>
    -- The serial section is the only one whose settings an empty table changes for a while.
    by_cases serial : name = "serial"
    · subst serial
      exact ofTable_insert_serial absent
    · have plain : (name, Value.table []) ∈
          [("discovery", Value.table []), ("advertise", .table []), ("api", .table [])] := by
        simp only [sections, List.mem_cons, List.not_mem_nil, or_false, serial, false_or] at listed
        simpa using listed
      rw [ofTable_eq, ofTable_eq, tolerates.foldlM_insert (.inr ⟨plain, absent⟩)]
  | unknownSection foreign => rw [ofTable_eq, ofTable_eq, tolerates.foldlM_insert (.inl foreign)]
  | standard fixed listed absent =>
    rw [ofTable_eq, ofTable_eq, Entries.foldlM_replace (withEntry_insert fixed (.inr ⟨listed, absent⟩))]
  | unknownKey fixed foreign =>
    rw [ofTable_eq, ofTable_eq, Entries.foldlM_replace (withEntry_insert fixed (.inl foreign))]

/-- Any number of entries that say nothing new leave what a table comes to as it is. -/
theorem ofTable_of_additions {table extended : Table} (additions : Relation.ReflTransGen Adds table extended) :
    ofTable extended = ofTable table := by
  induction additions with
  | refl => rfl
  | tail _ adds ih => rw [ofTable_of_adds adds, ih]

end Config

end Discovery
