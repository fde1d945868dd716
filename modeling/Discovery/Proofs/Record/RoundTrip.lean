import Discovery.Proofs.Json.Documents
import Discovery.Proofs.Time.Written
import Discovery.Record.Codec
/-!
# Records read back

A record is read from an object by looking its six fields up, so the order of the fields does not matter and neither do
fields under other keys. From the object that is written of a record the record comes back, in the order in which it is
written and in canonical form. It comes back as well from an array of its values, where the order is all there is.
-/
namespace Discovery

/-! ## The parts of a record -/

namespace Json

theorem decodePort_toNat (port : UInt16) : decodePort (.integer port.toNat) = .ok port := by
  rw [decodePort, decodeNatural_eq_ok_iff.mpr ⟨rfl, port.toNat_lt⟩]
  simp only [bind, Except.bind, pure, Except.pure, UInt16.ofNat_toNat]

/-- A field that is found and can be decoded is there. -/
theorem Fields.decode?_of_found {α : Type} {fields : Fields} {key : String} {held : Json} {value : α}
    {decode : Json → Except DecodeError α} (found : fields.find? key = some held) (decoded : decode held = .ok value) :
    fields.decode? key decode = .ok (some value) := by
  simp only [decode?, found, decoded, bind, Except.bind, pure, Except.pure]

end Json

theorem Time.Instant.ofJson_toJson (instant : Instant) : ofJson instant.toJson = .ok instant := by
  simp only [toJson, ofJson, Json.decodeText, bind, Except.bind, ofText_toText]
  rfl

namespace Record

/-! ## Objects -/

/-- The fields of a record, in the order in which they are written. -/
def entries (record : Record) : Json.Fields := [
  ("category", .string record.category.name), ("address", .string record.address), ("port", .integer record.port.toNat),
  ("host_name", .string record.hostName), ("exists", .boolean record.live), ("expiry", .string record.expiry.toText)]

theorem toJson_eq (record : Record) : record.toJson = .object record.entries := rfl

theorem keys_entries (record : Record) :
    record.entries.map Prod.fst = ["category", "address", "port", "host_name", "exists", "expiry"] := rfl

/-- A record is read from all objects in which its fields are found, whatever their order and whatever else they hold. -/
theorem ofFields_of_found {record : Record} {fields : Json.Fields}
    (found : ∀ field ∈ record.entries, fields.find? field.1 = some field.2) : ofFields fields = .ok record := by
  have category : fields.decode? "category" Category.ofJson = .ok (some record.category) :=
    Json.Fields.decode?_of_found (found ("category", _) (by simp [entries])) (Category.ofJson_toJson record.category)
  have address : fields.decode? "address" (·.decodeText "a string") = .ok (some record.address) :=
    Json.Fields.decode?_of_found (found ("address", .string record.address) (by simp [entries])) rfl
  have port : fields.decode? "port" Json.decodePort = .ok (some record.port) :=
    Json.Fields.decode?_of_found (found ("port", _) (by simp [entries])) (Json.decodePort_toNat record.port)
  have hostName : fields.decode? "host_name" (·.decodeText "a string") = .ok (some record.hostName) :=
    Json.Fields.decode?_of_found (found ("host_name", .string record.hostName) (by simp [entries])) rfl
  have live : fields.decode? "exists" Json.decodeBoolean = .ok (some record.live) :=
    Json.Fields.decode?_of_found (found ("exists", .boolean record.live) (by simp [entries])) rfl
  have expiry : fields.decode? "expiry" Time.Instant.ofJson = .ok (some record.expiry) :=
    Json.Fields.decode?_of_found (found ("expiry", _) (by simp [entries])) record.expiry.ofJson_toJson
  simp only [ofFields, address, category, live, expiry, hostName, port, bind, Except.bind, require]
  rfl

theorem nodup_entries (record : Record) : (record.entries.map Prod.fst).Nodup := by
  rw [keys_entries]
  decide

/-- The fields of a record with others strewn among them, none of which has a key of the record's. -/
structure Strewn (record : Record) (fields : Json.Fields) : Prop where
  own : ∀ field ∈ record.entries, field ∈ fields
  foreign : ∀ field ∈ fields, field.1 ∈ record.entries.map Prod.fst → field ∈ record.entries

theorem strewn_entries (record : Record) : record.Strewn record.entries where
  own := fun _ member => member
  foreign := fun _ member _ => member

theorem Strewn.found {record : Record} {fields : Json.Fields} (strewn : record.Strewn fields) :
    ∀ field ∈ record.entries, fields.find? field.1 = some field.2 := by
  intro field member
  -- A lookup finds the first field under a key, so there must be no other under the same one.
  apply Json.Fields.find?_of_only (strewn.own field member)
  intro other within same
  have known : other.1 ∈ record.entries.map Prod.fst := same ▸ List.mem_map_of_mem member
  exact List.inj_on_of_nodup_map record.nodup_entries (strewn.foreign other within known) member same

theorem Strewn.ofJson {record : Record} {fields : Json.Fields} (strewn : record.Strewn fields) :
    ofJson (.object fields) = .ok record := ofFields_of_found strewn.found

theorem canonicalField_entries {record : Record} {field : String × Json} (member : field ∈ record.entries) :
    Json.canonicalField field = field := by
  simp only [entries, List.mem_cons, List.not_mem_nil, or_false] at member
  rcases member with rfl | rfl | rfl | rfl | rfl | rfl <;> rfl

/-- Canonical form puts the fields in another order, in which those of the record are found all the same. -/
theorem Strewn.ofJson_canonical {record : Record} {fields : Json.Fields} (strewn : record.Strewn fields) :
    Record.ofJson (Json.object fields).canonical = .ok record := by
  have within : record.Strewn (Json.canonicalFields fields).reverse := by
    constructor
    · intro field member
      rw [List.mem_reverse, Json.canonicalFields_eq_map, ← canonicalField_entries member]
      exact List.mem_map_of_mem (strewn.own field member)
    · intro field member known
      rw [List.mem_reverse, Json.canonicalFields_eq_map] at member
      -- Canonical form keeps the keys, so a field under a known key is one of the record's.
      obtain ⟨⟨key, value⟩, within, rfl⟩ := List.mem_map.mp member
      have own : (key, value) ∈ record.entries := strewn.foreign (key, value) within known
      rwa [canonicalField_entries own]
  apply ofFields_of_found
  intro field member
  rw [Json.Fields.find?_ofPairs_reverse]
  exact within.found field member

theorem ofJson_toJson (record : Record) : ofJson record.toJson = .ok record := record.strewn_entries.ofJson

theorem ofJson_canonical (record : Record) : ofJson record.toJson.canonical = .ok record :=
  record.strewn_entries.ofJson_canonical

theorem exact_entries {record : Record} {field : String × Json} (member : field ∈ record.entries) : field.2.Exact := by
  simp only [entries, List.mem_cons, List.not_mem_nil, or_false] at member
  rcases member with rfl | rfl | rfl | rfl | rfl | rfl
  · exact .string _
  · exact .string _
  · have least : -(Decimal.twoTo 63 : Int) ≤ record.port.toNat :=
      Int.le_trans (Int.neg_nonpos_of_nonneg (Int.natCast_nonneg _)) (Int.natCast_nonneg _)
    exact .integer least (Int.ofNat_lt.mpr (Nat.lt_trans record.port.toNat_lt (by decide)))
  · exact .string _
  · exact .boolean _
  · exact .string _

theorem exact_toJson (record : Record) : record.toJson.Exact := by
  rw [toJson_eq]
  exact .object fun _ member => exact_entries member

/-! ## Arrays -/

/-- The values of a record's fields in the order in which they are written. -/
def values (record : Record) : List Json := record.entries.map Prod.snd

theorem takeItem_of_ok {α : Type} {decode : Json → Except DecodeError α} {item : Json} {value : α}
    (decoded : decode item = .ok value) (index : Nat) (rest : List Json) :
    takeItem index decode (item :: rest) = .ok (value, rest) := by
  simp only [takeItem, decoded, bind, Except.bind, pure, Except.pure]

theorem ofJson_values (record : Record) : ofJson (.array record.values) = .ok record := by
  have category := takeItem_of_ok (Category.ofJson_toJson record.category) 0
  have address := @takeItem_of_ok String (·.decodeText "a string") (.string record.address) _ rfl 1
  have port := takeItem_of_ok (Json.decodePort_toNat record.port) 2
  have hostName := @takeItem_of_ok String (·.decodeText "a string") (.string record.hostName) _ rfl 3
  have live := @takeItem_of_ok Bool Json.decodeBoolean (.boolean record.live) _ rfl 4
  have expiry := takeItem_of_ok record.expiry.ofJson_toJson 5
  have written : record.values = [record.category.toJson, .string record.address, .integer record.port.toNat,
    .string record.hostName, .boolean record.live, record.expiry.toJson] := rfl
  -- One value is taken at a time, and each leaves the ones behind it.
  rw [ofJson, written, ofItems, category, Time.ok_bind]
  dsimp only
  rw [address, Time.ok_bind]
  dsimp only
  rw [port, Time.ok_bind]
  dsimp only
  rw [hostName, Time.ok_bind]
  dsimp only
  rw [live, Time.ok_bind]
  dsimp only
  rw [expiry, Time.ok_bind]
  rfl

theorem exact_values (record : Record) : (Json.array record.values).Exact := by
  apply Json.Exact.array
  intro item member
  obtain ⟨field, within, rfl⟩ := List.mem_map.mp member
  exact exact_entries within

theorem canonical_values (record : Record) : (Json.array record.values).canonical = .array record.values := by
  rw [Json.canonical, Json.canonicalItems_eq_map, values, List.map_map]
  refine congrArg Json.array (List.map_congr_left fun (key, value) member => ?_)
  exact congrArg Prod.snd (canonicalField_entries member)

/-! ## Either form -/

theorem strewn_of_perm {record : Record} {extra fields : Json.Fields}
    (unknown : ∀ field ∈ extra, field.1 ∉ record.entries.map Prod.fst)
    (added : fields.Perm (record.entries ++ extra)) : record.Strewn fields := by
  constructor
  · intro field member
    exact added.mem_iff.mpr (List.mem_append_left extra member)
  · intro field member known
    rcases List.mem_append.mp (added.mem_iff.mp member) with own | foreign
    · exact own
    · exact absurd known (unknown field foreign)

/-- A record comes back unchanged from the object and from the array of its values, as values and by way of their text. It
comes back from the object just so where fields under other keys are added to it, in whatever places. -/
theorem serialized_comes_back (record : Record) :
    (∀ value ∈ [record.toJson, .array record.values], ofJson value = .ok record ∧
      ∃ read, Json.ofText? value.toText = some read ∧ ofJson read = .ok record) ∧
    ∀ extra fields : Json.Fields, (∀ field ∈ extra, field.1 ∉ record.entries.map Prod.fst) →
      fields.Perm (record.entries ++ extra) → ∀ value ∈ [Json.object fields, (Json.object fields).canonical],
        ofJson value = .ok record := by
  constructor
  · intro value form
    rcases List.mem_pair.mp form with object | array
    · subst object
      exact ⟨record.ofJson_toJson, _, Json.ofText?_toText record.exact_toJson, record.ofJson_canonical⟩
    · subst array
      refine ⟨record.ofJson_values, _, Json.ofText?_toText record.exact_values, ?_⟩
      rw [canonical_values, ofJson_values]
  · intro extra fields unknown added value form
    have strewn : record.Strewn fields := strewn_of_perm unknown added
    rcases List.mem_pair.mp form with plain | canonical
    · rw [plain, strewn.ofJson]
    · rw [canonical, strewn.ofJson_canonical]

/-- A record of the year -101 that expires in the middle of a leap second. -/
def ancient : Record where
  category := .wled
  address := "::1"
  port := 80
  hostName := "kitchen \"1\""
  live := false
  expiry := ⟨-65352700801, 1500000000, by decide, by decide⟩

theorem serialized_comes_back_ancient :
    ancient.expiry.write = "-0101-01-20T23:59:60.500Z".toList ∧
    (∀ value ∈ [ancient.toJson, .array ancient.values], ofJson value = .ok ancient) ∧
    ofJson (.object (("zone", .null) :: ancient.entries)) = .ok ancient := by
  obtain ⟨own, added⟩ := serialized_comes_back ancient
  refine ⟨by decide +kernel, fun value form => (own value form).1, ?_⟩
  have unknown : ∀ field ∈ [("zone", Json.null)], field.1 ∉ ancient.entries.map Prod.fst := by
    rw [keys_entries]
    decide
  exact added [("zone", .null)] _ unknown (List.perm_append_singleton _ _).symm _ List.mem_cons_self

end Record

end Discovery
