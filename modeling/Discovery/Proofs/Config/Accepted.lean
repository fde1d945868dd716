import Discovery.Proofs.Config.Sections
import Discovery.Proofs.Json.Documents
import Discovery.Proofs.Toml.Distinct
/-!
# What an accepted configuration holds

Of a table that is accepted, the serial section comes out as a JSON object under the same keys, or as the default object
if there is nothing in it, and the window is the one that the table gives and lies in its range. Tables are taken to have no
key twice, as all tables of documents are.
-/
namespace Discovery

open Entries (absent_of_lookup mem_of_lookup)
open Toml (Table Value)

/-! ## Tables in JSON -/

namespace Toml

theorem entriesToJson_eq_map (entries : Table) :
    entriesToJson entries = entries.map fun entry => (entry.1, entry.2.toJson) := by
  induction entries with
  | nil => rfl
  | cons entry rest ih => rw [entriesToJson, ih, List.map_cons]

theorem keys_entriesToJson (entries : Table) : (entriesToJson entries).map Prod.fst = entries.map Prod.fst := by
  rw [entriesToJson_eq_map, List.map_map]
  rfl

theorem Value.toJson_eq_string_iff {value : Value} {text : String} :
    value.toJson = .string text ↔ value = .text text := by
  cases value with
  | text held => simp [toJson]
  | float number => cases number <;> simp [toJson]
  | integer _ | boolean _ | moment _ | array _ => simp [toJson]
  | table _ => simp [toJson, Json.ofPairs]

/-- An object has the fields of its table, each under its key. -/
theorem field?_tableToJson {table : Table} (distinct : (table.map Prod.fst).Nodup) {entry : String × Value}
    (member : entry ∈ table) : (tableToJson table).field? entry.1 = some entry.2.toJson := by
  rw [← keys_entriesToJson] at distinct
  rw [tableToJson, Value.toJson, Json.ofPairs, Json.field?, Json.Fields.find?_ofPairs distinct]
  have written : (entry.1, entry.2.toJson) ∈ entriesToJson table := by
    rw [entriesToJson_eq_map]
    exact List.mem_map_of_mem member
  exact Json.Fields.find?_of_mem distinct written

theorem tableToJson_eq_singleton_iff {table : Table} (distinct : (table.map Prod.fst).Nodup) {key text : String} :
    tableToJson table = .object [(key, .string text)] ↔ table = [(key, .text text)] := by
  constructor
  · intro same
    rw [← keys_entriesToJson] at distinct
    -- The fields are a rearrangement of the entries, and there is one arrangement of one entry.
    have sorted : Json.Fields.ofPairs (entriesToJson table) = [(key, .string text)] := Json.object.inj same
    have single : entriesToJson table = [(key, .string text)] :=
      List.perm_singleton.mp (sorted ▸ (Json.Fields.ofPairs_perm distinct).symm)
    rw [entriesToJson_eq_map] at single
    obtain ⟨⟨own, value⟩, shape, field⟩ := List.map_eq_singleton_iff.mp single
    have name : own = key := congrArg Prod.fst field
    have written : value.toJson = .string text := congrArg Prod.snd field
    rw [shape, name, Value.toJson_eq_string_iff.mp written]
  · intro same
    subst same
    rfl

/-! ## Dates and times in the place of tables -/

theorem resolveEntries_cons_eq_ok_iff {entry : String × Value} {rest resolved : Table} :
    Value.resolveEntries (entry :: rest) = .ok resolved ↔ ∃ value others, entry.2.resolve = .ok value ∧
      Value.resolveEntries rest = .ok others ∧ resolved = (entry.1, value) :: others := by
  rw [Value.resolveEntries]
  constructor
  · intro done
    obtain ⟨value, first, done⟩ := Entries.bind_eq_ok_iff.mp done
    obtain ⟨others, later, same⟩ := Entries.bind_eq_ok_iff.mp done
    cases same
    exact ⟨value, others, first, later, rfl⟩
  · rintro ⟨value, others, first, later, rfl⟩
    simp only [first, later, bind, Except.bind, pure, Except.pure]

/-- Every entry is resolved by itself and stays under its key. -/
theorem exists_of_resolveEntries {entries resolved : Table} (done : Value.resolveEntries entries = .ok resolved) :
    resolved.map Prod.fst = entries.map Prod.fst ∧
      ∀ entry ∈ entries, ∃ value, entry.2.resolve = .ok value ∧ (entry.1, value) ∈ resolved := by
  induction entries generalizing resolved with
  | nil =>
    cases done
    exact ⟨rfl, List.forall_mem_nil _⟩
  | cons entry rest ih =>
    obtain ⟨value, others, first, later, rfl⟩ := resolveEntries_cons_eq_ok_iff.mp done
    obtain ⟨keys, each⟩ := ih later
    refine ⟨congrArg (entry.1 :: ·) keys, List.forall_mem_cons.mpr ⟨⟨value, first, List.mem_cons_self⟩, ?_⟩⟩
    intro entry member
    obtain ⟨value, resolved, within⟩ := each entry member
    exact ⟨value, resolved, List.mem_cons_of_mem _ within⟩

theorem Value.resolve_eq_text {value : Value} {text : String} (done : value.resolve = .ok (.text text)) :
    value = .text text := by
  unfold resolve at done
  split at done
  next =>
    obtain ⟨_, _, same⟩ := Entries.bind_eq_ok_iff.mp done
    cases same
  next =>
    split at done
    next =>
      obtain ⟨_, _, same⟩ := Entries.bind_eq_ok_iff.mp done
      cases same
    next =>
      obtain ⟨_, _, same⟩ := Entries.bind_eq_ok_iff.mp done
      cases same
  next =>
    cases done
    rfl

theorem resolveEntries_eq_singleton_iff {entries : Table} {key text : String} :
    Value.resolveEntries entries = .ok [(key, .text text)] ↔ entries = [(key, .text text)] := by
  constructor
  · intro done
    cases entries with
    | nil => cases done
    | cons entry rest =>
      obtain ⟨value, others, first, later, same⟩ := resolveEntries_cons_eq_ok_iff.mp done
      cases same
      have alone : rest = [] := List.map_eq_nil_iff.mp (exists_of_resolveEntries later).1.symm
      rw [alone, ← Value.resolve_eq_text first]
  · intro same
    subst same
    rfl

end Toml

namespace Config

variable {table : Table} {config : Config}

/-- A table that is accepted has been read entry by entry, and its window is in range. -/
theorem exists_read_of_ofTable (accepted : ofTable table = .ok config) :
    ∃ read, table.foldlM withEntry default = .ok read ∧ config = read.settled ∧
      1 ≤ read.discovery.ttlWindow ∧ read.discovery.ttlWindow ≤ DiscoverySettings.greatestWindow := by
  rw [ofTable_eq] at accepted
  cases decoded : table.foldlM withEntry default with
  | error fault =>
    rw [decoded] at accepted
    cases accepted
  | ok read =>
    rw [decoded] at accepted
    obtain ⟨same, within⟩ := check_eq_ok_iff.mp accepted
    exact ⟨read, rfl, same.symm, within⟩

/-! ## The serial section -/

/-- The serial section is the default if the table has none, and else what this resolves to, unless that is empty. -/
theorem serial_of_ofTable (distinct : (table.map Prod.fst).Nodup) (accepted : ofTable table = .ok config) :
    (table.lookup "serial" = none ∧ config.serial = defaultSerial) ∨
      ∃ value held, table.lookup "serial" = some value ∧ value.tableEntries = .ok held ∧
        config.serial = if held.isEmpty then defaultSerial else held := by
  obtain ⟨read, decoded, rfl, _⟩ := exists_read_of_ofTable accepted
  cases found : table.lookup "serial" with
  | none =>
    have standard : read.serial = defaultSerial := keeps_serial.foldlM_of_absent (absent_of_lookup found) decoded
    refine .inl ⟨rfl, ?_⟩
    rw [settled, standard]
    rfl
  | some value =>
    obtain ⟨before, after, taken, same⟩ := keeps_serial.foldlM_of_mem distinct (mem_of_lookup found) decoded
    obtain ⟨held, resolved, done⟩ := Entries.bind_eq_ok_iff.mp taken
    cases done
    refine .inr ⟨value, held, rfl, resolved, ?_⟩
    rw [settled, same]

/-- What a serial section may be: a table, or a date that stands for one. -/
theorem tableEntries_cases {value : Value} {held : Table} (done : value.tableEntries = .ok held) :
    (∃ entries, value = .table entries ∧ Value.resolveEntries entries = .ok held) ∨
      ∃ text, held = [(Toml.momentKey, .text text)] ∧ ∀ entries, value ≠ .table entries := by
  cases value with
  | table entries => exact .inl ⟨entries, rfl, done⟩
  | moment time =>
    cases done
    exact .inr ⟨_, rfl, by simp⟩
  | text _ | integer _ | float _ | boolean _ | array _ => cases done

theorem nodup_serial (distinct : (Value.table table).Distinct) (accepted : ofTable table = .ok config) :
    (config.serial.map Prod.fst).Nodup := by
  rcases serial_of_ofTable distinct.keys accepted with ⟨_, standard⟩ | ⟨value, held, found, resolved, same⟩
  · rw [standard]
    exact List.nodup_singleton _
  · rw [same]
    split
    next => exact List.nodup_singleton _
    next =>
      rcases tableEntries_cases resolved with ⟨entries, rfl, done⟩ | ⟨text, rfl, _⟩
      · -- Resolving dates keeps the keys, and those are distinct in the table.
        have own : (Value.table entries).Distinct := distinct.values (mem_of_lookup found)
        rw [(Toml.exists_of_resolveEntries done).1]
        exact own.keys
      · exact List.nodup_singleton _

theorem serial_ne_nil (distinct : (table.map Prod.fst).Nodup) (accepted : ofTable table = .ok config) :
    config.serial ≠ [] := by
  rcases serial_of_ofTable distinct accepted with ⟨_, standard⟩ | ⟨value, held, _, _, same⟩
  · rw [standard]
    exact List.cons_ne_nil _ _
  · rw [same]
    split
    next => exact List.cons_ne_nil _ _
    next full => exact fun empty => full (List.isEmpty_iff.mpr empty)

theorem serial_eq_default_iff (distinct : (table.map Prod.fst).Nodup) (accepted : ofTable table = .ok config) :
    config.serial = defaultSerial ↔ table.lookup "serial" = none ∨ table.lookup "serial" = some (.table []) ∨
      table.lookup "serial" = some (.table [("type", .text "adalight")]) := by
  rcases serial_of_ofTable distinct accepted with ⟨missing, standard⟩ | ⟨value, held, found, resolved, same⟩
  · simp [missing, standard]
  · -- A date cannot be the default section: what it stands for has the key of dates.
    rw [found, same]
    rcases tableEntries_cases resolved with ⟨entries, rfl, done⟩ | ⟨text, rfl, other⟩
    · cases entries with
      | nil =>
        cases done
        simp
      | cons entry rest =>
        -- A section with an entry resolves to one with an entry, so it is not replaced by the default.
        have full : held ≠ [] := by
          intro empty
          have keys := (Toml.exists_of_resolveEntries done).1
          rw [empty] at keys
          cases keys
        rw [if_neg (fun empty => full (List.isEmpty_iff.mp empty)), defaultSerial]
        constructor
        · intro default
          rw [default] at done
          rw [Toml.resolveEntries_eq_singleton_iff.mp done]
          exact .inr (.inr rfl)
        · rintro (absent | empty | written)
          · cases absent
          · cases empty
          · cases written
            rw [Toml.resolveEntries_eq_singleton_iff.mpr rfl] at done
            cases done
            rfl
    · simp [defaultSerial, Toml.momentKey, other]

/-! ## The window -/

/-- What a section says about the window: the value under its key, or the first value of an array. -/
def window? : Value → Option Value
  | .table entries => entries.lookup "ttl_window_secs"
  | .array (first :: _) => some first
  | _ => none

theorem ttlWindow_of_foldlM (front : Table) {back : Table} {value : Value} (last : "ttl_window_secs" ∉ back.map Prod.fst)
    {start settings : DiscoverySettings}
    (decoded : (front ++ ("ttl_window_secs", value) :: back).foldlM DiscoverySettings.withEntry start = .ok settings) :
    value = .integer settings.ttlWindow := by
  -- Whatever stands in front, the value sets the window, and nothing behind it changes that.
  obtain ⟨before, _, decoded⟩ := Entries.foldlM_append_eq_ok_iff.mp decoded
  obtain ⟨after, taken, decoded⟩ := Entries.foldlM_cons_eq_ok_iff.mp decoded
  obtain ⟨window, held, same⟩ := Entries.bind_eq_ok_iff.mp taken
  cases same
  rw [DiscoverySettings.keeps_ttlWindow.foldlM_of_absent last decoded]
  exact (Value.decodeNatural_eq_ok_iff.mp held).1

theorem ttlWindow_of_window? {value said : Value} (distinct : value.Distinct) (gives : window? value = some said)
    {settings : DiscoverySettings} (decoded : DiscoverySettings.ofValue value = .ok settings) :
    said = .integer settings.ttlWindow := by
  unfold window? at gives
  split at gives
  next entries =>
    obtain ⟨front, back, rfl, _⟩ := List.lookup_eq_some_iff.mp gives
    have keys := distinct.keys
    rw [List.map_append, List.map_cons] at keys
    exact ttlWindow_of_foldlM front (List.nodup_cons.mp (List.nodup_append.mp keys).2.1).1 decoded
  next first rest =>
    cases gives
    -- The values of an array go to the keys of the section in their order.
    have last : "ttl_window_secs" ∉ (["maintenance_interval_secs", "interface"].zip rest).map Prod.fst := by
      intro member
      obtain ⟨entry, member, same⟩ := List.mem_map.mp member
      have key := (List.of_mem_zip member).1
      rw [same] at key
      exact absurd key (by decide)
    exact ttlWindow_of_foldlM [] last decoded
  next => cases gives

theorem window_of_ofTable (distinct : (Value.table table).Distinct) {value said : Value}
    (found : table.lookup "discovery" = some value) (gives : window? value = some said)
    (accepted : ofTable table = .ok config) : ∃ seconds : Int, said = .integer seconds ∧ 1 ≤ seconds ∧ seconds ≤ 86400 := by
  obtain ⟨read, decoded, _, least, most⟩ := exists_read_of_ofTable accepted
  obtain ⟨before, after, taken, same⟩ := keeps_discovery.foldlM_of_mem distinct.keys (mem_of_lookup found) decoded
  obtain ⟨settings, held, done⟩ := Entries.bind_eq_ok_iff.mp taken
  cases done
  rw [same] at least most
  refine ⟨settings.ttlWindow, ttlWindow_of_window? (distinct.values (mem_of_lookup found)) gives held, ?_, ?_⟩
  · exact Int.ofNat_le.mpr least
  · exact Int.ofNat_le.mpr most

/-! ## Results -/

/-- The serial section of an accepted table as an object: there is something in it, it is the default just if the table
says nothing else, and it has what the table has under its keys, dates in the place of the tables that stand for them. -/
theorem serialJson_of_ofTable (distinct : (Value.table table).Distinct) (accepted : ofTable table = .ok config) :
    (∃ fields, config.serialJson = .object fields ∧ fields ≠ []) ∧
    (config.serialJson = .object [("type", .string "adalight")] ↔
      table.lookup "serial" = none ∨ table.lookup "serial" = some (.table []) ∨
        table.lookup "serial" = some (.table [("type", .text "adalight")])) ∧
    ∀ entries, table.lookup "serial" = some (.table entries) → ∀ entry ∈ entries,
      ∃ value, entry.2.resolve = .ok value ∧ config.serialJson.field? entry.1 = some value.toJson := by
  have nodup := nodup_serial distinct accepted
  refine ⟨⟨_, rfl, ?_⟩, ?_, ?_⟩
  · intro empty
    rw [← Toml.keys_entriesToJson] at nodup
    -- Putting fields in order loses none of them.
    have none : Toml.entriesToJson config.serial = [] := List.nil_perm.mp (empty ▸ Json.Fields.ofPairs_perm nodup)
    rw [Toml.entriesToJson_eq_map, List.map_eq_nil_iff] at none
    exact serial_ne_nil distinct.keys accepted none
  · rw [serialJson, Toml.tableToJson_eq_singleton_iff nodup]
    exact serial_eq_default_iff distinct.keys accepted
  · intro entries found entry member
    rcases serial_of_ofTable distinct.keys accepted with ⟨missing, _⟩ | ⟨value, held, also, resolved, same⟩
    · rw [missing] at found
      cases found
    · rw [also] at found
      cases found
      obtain ⟨_, each⟩ := Toml.exists_of_resolveEntries resolved
      obtain ⟨value, done, within⟩ := each entry member
      -- A section that has an entry is not taken for an empty one.
      have full : ¬ held.isEmpty := by
        intro empty
        rw [List.isEmpty_iff.mp empty] at within
        cases within
      rw [if_neg full] at same
      rw [← same] at within
      exact ⟨value, done, Toml.field?_tableToJson nodup within⟩

/-- Nothing that goes without saying makes a difference when it is said. Of a table without duplicate keys, as those of
documents are, the serial section is kept unless there is nothing in it, and the window has to be in its range. -/
theorem ofTable_defaults_serial_window (table : Table) :
    (∀ extended, Relation.ReflTransGen Adds table extended → ofTable extended = ofTable table) ∧
    (∀ text, Toml.ofText? text = some table → (Value.table table).Distinct) ∧
    ((Value.table table).Distinct →
      (∀ config, ofTable table = .ok config →
        (∃ fields, config.serialJson = .object fields ∧ fields ≠ []) ∧
        (config.serialJson = .object [("type", .string "adalight")] ↔
          table.lookup "serial" = none ∨ table.lookup "serial" = some (.table []) ∨
            table.lookup "serial" = some (.table [("type", .text "adalight")])) ∧
        ∀ entries, table.lookup "serial" = some (.table entries) → ∀ entry ∈ entries,
          ∃ value, entry.2.resolve = .ok value ∧ config.serialJson.field? entry.1 = some value.toJson) ∧
      ∀ value said, table.lookup "discovery" = some value → window? value = some said →
        (∀ seconds, said = .integer seconds → ¬ (1 ≤ seconds ∧ seconds ≤ 86400)) →
          ∃ error, ofTable table = .error error) := by
  refine ⟨fun _ => ofTable_of_additions, fun _ => Toml.distinct_of_ofText?, fun distinct => ⟨?_, ?_⟩⟩
  · intro config accepted
    exact serialJson_of_ofTable distinct accepted
  · intro value said found gives outside
    cases result : ofTable table with
    | error error => exact ⟨error, rfl⟩
    | ok config =>
      obtain ⟨seconds, same, within⟩ := window_of_ofTable distinct found gives result
      exact absurd within (outside seconds same)

/-- A table with two sections. -/
def wired : Table := [("discovery", .table [("interface", .text "eth0")]), ("serial", .table [("type", .text "file")])]

theorem ofTable_defaults_serial_window_wired :
    ofTable [("discovery", .table [("interface", .text "eth0"), ("ttl_window_secs", .integer 120)]), ("api", .table []),
      ("serial", .table [("type", .text "file")])] = ofTable wired ∧
    (∃ config, ofTable wired = .ok config ∧ config.serialJson.field? "type" = some (.string "file")) ∧
    ∃ error, ofTable [("discovery", .table [("ttl_window_secs", .integer 0)])] = .error error := by
  obtain ⟨additions, _, whole⟩ := ofTable_defaults_serial_window wired
  have window : Adds wired [("discovery", .table [("interface", .text "eth0"), ("ttl_window_secs", .integer 120)]),
      ("serial", .table [("type", .text "file")])] :=
    @Adds.standard [] [("serial", .table [("type", .text "file")])] [("interface", .text "eth0")] [] "discovery"
      ("ttl_window_secs", .integer 120) (by decide) (by simp [standard]) (by decide)
  have api : Adds [("discovery", .table [("interface", .text "eth0"), ("ttl_window_secs", .integer 120)]),
      ("serial", .table [("type", .text "file")])]
      [("discovery", .table [("interface", .text "eth0"), ("ttl_window_secs", .integer 120)]), ("api", .table []),
        ("serial", .table [("type", .text "file")])] :=
    @Adds.emptySection [_] _ "api" (by decide) (by decide)
  refine ⟨additions _ (.tail (.single window) api), ?_, ?_⟩
  · have distinct : (Value.table wired).Distinct := by
      refine .table (by decide) (List.forall_mem_cons.mpr ⟨?_, List.forall_mem_singleton.mpr ?_⟩)
      · exact .table (by decide) (List.forall_mem_singleton.mpr (.text _))
      · exact .table (by decide) (List.forall_mem_singleton.mpr (.text _))
    have accepted : ∃ config, ofTable wired = .ok config := ⟨_, rfl⟩
    obtain ⟨config, accepted⟩ := accepted
    obtain ⟨_, _, kept⟩ := (whole distinct).1 config accepted
    obtain ⟨value, resolved, written⟩ := kept _ rfl _ List.mem_cons_self
    cases resolved
    exact ⟨config, accepted, written⟩
  · have distinct : (Value.table [("discovery", .table [("ttl_window_secs", .integer 0)])]).Distinct := by
      refine .table (by decide) (List.forall_mem_singleton.mpr ?_)
      exact .table (by decide) (List.forall_mem_singleton.mpr (.integer 0))
    obtain ⟨_, _, bounded⟩ := ofTable_defaults_serial_window [("discovery", .table [("ttl_window_secs", .integer 0)])]
    apply (bounded distinct).2 _ _ rfl rfl
    intro seconds same
    cases same
    decide

end Config

end Discovery
