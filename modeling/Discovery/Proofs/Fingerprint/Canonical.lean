import Discovery.Proofs.Json.Strings
import Discovery.Proofs.Membership
import Mathlib.Data.List.Nodup
import Mathlib.Data.Prod.Lex
import Mathlib.Data.String.Basic
/-!
# What a fingerprint is taken of

The bytes that are digested are a canonical form of a set of members. Sorting by key forgets the order in which the
records are held, as long as no two of them share a key. Every entry can be told from the text behind it, because a
string ends at its closing quote and a number at the comma behind it, so from the whole text the members can be read
off again: no host name and no address can pass for a boundary between fields or records.
-/
namespace Discovery

open Decimal (digits isDigit)

theorem Category.name_injective : Function.Injective Category.name := by
  intro left right same
  have read := congrArg Category.ofName? same
  rwa [Category.ofName?_name, Category.ofName?_name, Option.some.injEq] at read

namespace Json

/-- A field that holds a string ends with it. -/
theorem writeField_string_inj {key left right : String} {leftRest rightRest : List Char}
    (same : writeField (key, .string left) ++ leftRest = writeField (key, .string right) ++ rightRest) :
    left = right ∧ leftRest = rightRest := by
  simp only [writeField_mk, write_string, List.append_assoc, List.cons_append, List.append_cancel_left_eq,
    List.cons.injEq, true_and] at same
  obtain ⟨values, rests⟩ := quoted_append_inj same
  exact ⟨String.toList_inj.mp values, rests⟩

/-- A field that holds a natural number ends where no digit follows. -/
theorem writeField_natural_inj {key : String} {left right : Nat} {leftRest rightRest : List Char}
    (leftStop : ∀ char ∈ leftRest.head?, isDigit char = false)
    (rightStop : ∀ char ∈ rightRest.head?, isDigit char = false)
    (same : writeField (key, .integer left) ++ leftRest = writeField (key, .integer right) ++ rightRest) :
    left = right ∧ leftRest = rightRest := by
  have unsigned (number : Nat) : write (.integer number) = digits number := by
    simp [write_integer, Decimal.signed]
  simp only [writeField_mk, unsigned, List.append_assoc, List.cons_append, List.append_cancel_left_eq,
    List.cons.injEq, true_and] at same
  -- Both sides give the same digits to a reader of digits, and the rest is the same too.
  have taken := congrArg Decimal.takeDigits same
  simp only [Decimal.takeDigits, span_append_of_stop (Decimal.isDigit_of_mem_digits _) leftStop,
    span_append_of_stop (Decimal.isDigit_of_mem_digits _) rightStop, Prod.mk.injEq] at taken
  have values := congrArg Decimal.value taken.1
  rw [Decimal.value_digits, Decimal.value_digits] at values
  exact ⟨values, taken.2⟩

end Json

namespace Fingerprint

/-! ## The order of entries -/

/-- Where a record stands among others, by its key. -/
def place (key : Key) : Nat ×ₗ String ×ₗ Nat := toLex (key.category.rank, toLex (key.address, key.port.toNat))

theorem place_injective : Function.Injective place := by
  intro left right same
  simp only [place, EmbeddingLike.apply_eq_iff_eq, Prod.mk.injEq, UInt16.toNat_inj] at same
  obtain ⟨categories, addresses, ports⟩ := same
  cases left
  cases right
  simp only [Key.mk.injEq]
  exact ⟨Category.rank_injective categories, addresses, ports⟩

theorem keyLe_iff (left right : Record) : keyLe left right = true ↔ place left.key ≤ place right.key := by
  simp only [keyLe, place, Prod.Lex.toLex_le_toLex, Sighting.key]
  split
  next categories =>
    have ranks : left.category.rank ≠ right.category.rank := fun same => categories (Category.rank_injective same)
    simp only [decide_eq_true_eq, Category.le_iff_rank, ranks, false_and, or_false]
    omega
  next categories =>
    rw [not_not.mp categories]
    split
    next addresses => simp [addresses]
    next addresses => simp [not_not.mp addresses, UInt16.le_iff_toNat_le]

/-- Sorted records stand in the order of their keys. -/
theorem pairwise_sorted (records : List Record) :
    (members (records.mergeSort keyLe)).Pairwise fun earlier later => place earlier.key ≤ place later.key := by
  have transitive : ∀ first second third : Record, keyLe first second → keyLe second third → keyLe first third := by
    intro first second third before after
    rw [keyLe_iff] at before after ⊢
    exact le_trans before after
  have total : ∀ first second : Record, keyLe first second || keyLe second first := by
    intro first second
    simp only [Bool.or_eq_true, keyLe_iff]
    exact le_total _ _
  have sorted := List.pairwise_mergeSort transitive total records
  simp only [keyLe_iff] at sorted
  exact List.pairwise_map.mpr sorted

theorem perm_sorted (records : List Record) :
    (members (records.mergeSort keyLe)).Perm (members records) :=
  (List.mergeSort_perm records keyLe).map Record.member

/-- Sorting leaves nothing of the order in which the members are held if their keys differ. -/
theorem sorted_eq_of_perm {left right : List Record} (unique : (left.map (·.key)).Nodup)
    (same : (members left).Perm (members right)) :
    members (left.mergeSort keyLe) = members (right.mergeSort keyLe) := by
  have unambiguous : ((members left).map Member.key).Nodup := by
    simpa [members, Function.comp_def, Record.member] using unique
  apply List.Perm.eq_of_pairwise ?_ (pairwise_sorted left) (pairwise_sorted right)
    ((perm_sorted left).trans (same.trans (perm_sorted right).symm))
  intro first second inLeft inRight before after
  -- Both are members of the same list, so they are one member if they stand in one place.
  have keys : first.key = second.key := place_injective (le_antisymm before after)
  have here : first ∈ members left := (perm_sorted left).mem_iff.mp inLeft
  have there : second ∈ members left := same.mem_iff.mpr ((perm_sorted right).mem_iff.mp inRight)
  exact List.inj_on_of_nodup_map unambiguous here there keys

/-! ## Reading the members off the text -/

/-- The text of a member. -/
def memberText (member : Member) : List Char := entry (member.toRecord .epoch)

theorem text_eq_flatMap (records : List Record) :
    text records = (members (records.mergeSort keyLe)).flatMap memberText := by
  have written : entry = fun record => memberText record.member := rfl
  rw [text, written, members, List.flatMap_map]

/-- The text of a member determines it and ends with it, whatever stands behind. -/
theorem memberText_append_inj {left right : Member} {leftRest rightRest : List Char}
    (same : memberText left ++ leftRest = memberText right ++ rightRest) : left = right ∧ leftRest = rightRest := by
  simp only [memberText, entry, Sighting.memberFields, Member.toRecord, Category.toJson, Json.write_object,
    Json.writeFields_cons_cons, Json.writeFields_singleton, List.append_assoc, List.cons_append, List.cons.injEq, true_and,
    List.nil_append] at same
  -- The fields are compared from the front: where one ends is settled before the next one is looked at.
  obtain ⟨categories, same⟩ := Json.writeField_string_inj same
  obtain ⟨addresses, same⟩ := Json.writeField_string_inj (List.cons.inj same).2
  obtain ⟨ports, same⟩ := Json.writeField_natural_inj (by simp [isDigit]) (by simp [isDigit]) (List.cons.inj same).2
  obtain ⟨hosts, same⟩ := Json.writeField_string_inj (List.cons.inj same).2
  have keys : left.key = right.key := by
    cases left with | mk leftKey _ =>
    cases right with | mk rightKey _ =>
    cases leftKey
    cases rightKey
    simp only [Key.mk.injEq]
    exact ⟨Category.name_injective categories, addresses, UInt16.toNat_inj.mp ports⟩
  refine ⟨?_, by simpa using same⟩
  cases left
  cases right
  simp only [Member.mk.injEq]
  exact ⟨keys, hosts⟩

theorem flatMap_memberText_injective : Function.Injective fun members : List Member => members.flatMap memberText := by
  intro left
  -- By induction on one list. The other is as long, since an entry is not empty.
  induction left with
  | nil =>
    intro right same
    cases right with
    | nil => rfl
    | cons member rest => simp [memberText, entry, Json.write_object] at same
  | cons member rest ih =>
    intro right same
    cases right with
    | nil => simp [memberText, entry, Json.write_object] at same
    | cons other more =>
      simp only [List.flatMap_cons] at same
      obtain ⟨heads, tails⟩ := memberText_append_inj same
      rw [heads, ih tails]

/-! ## Bytes -/

/-- The bytes of an array as a list, which is collected from the left. -/
theorem toList_loop (bytes : ByteArray) (index : Nat) (collected : List UInt8) :
    ByteArray.toList.loop bytes index collected = collected.reverse ++ bytes.data.toList.drop index := by
  fun_induction ByteArray.toList.loop bytes index collected with
  | case1 index collected within ih =>
    have inside : index < bytes.data.toList.length := by simpa using within
    have next : bytes.get! index = bytes.data.toList[index] := by
      simp only [ByteArray.get!, Array.getElem_toList]
      exact getElem!_pos bytes.data index (by simpa using within)
    rw [ih, List.drop_eq_getElem_cons inside, next]
    simp
  | case2 index collected outside =>
    have all : bytes.data.toList.length ≤ index := by simpa using outside
    simp [List.drop_eq_nil_of_le all]

theorem bytes_eq_iff_text {left right : List Record} : bytes left = bytes right ↔ text left = text right := by
  have collected (bytes : ByteArray) : bytes.toList = bytes.data.toList := by
    rw [ByteArray.toList, toList_loop]
    simp
  constructor
  · intro same
    simp only [bytes, collected, Array.toList_inj] at same
    exact String.ofList_inj.mp (String.toByteArray_inj.mp (ByteArray.ext same))
  · intro same
    rw [bytes, bytes, same]

theorem bytes_eq_iff_sorted {left right : List Record} :
    bytes left = bytes right ↔ members (left.mergeSort keyLe) = members (right.mergeSort keyLe) := by
  rw [bytes_eq_iff_text, text_eq_flatMap, text_eq_flatMap]
  exact flatMap_memberText_injective.eq_iff

theorem nodup_members {records : List Record} (unique : (records.map (·.key)).Nodup) : (members records).Nodup := by
  apply List.Nodup.of_map Member.key
  simpa [members, Function.comp_def, Record.member] using unique

/-- Two lists, in each of which the keys differ, are digested from the same bytes exactly when they have the same
members. Their order, liveness and deadlines make no difference, and every character of an address or a host name
does. -/
theorem bytes_eq_iff {left right : List Record} (leftUnique : (left.map (·.key)).Nodup)
    (rightUnique : (right.map (·.key)).Nodup) :
    bytes left = bytes right ↔ ∀ member, member ∈ members left ↔ member ∈ members right := by
  rw [bytes_eq_iff_sorted]
  constructor
  · intro same member
    rw [← (perm_sorted left).mem_iff, same, (perm_sorted right).mem_iff]
  · intro same
    apply sorted_eq_of_perm leftUnique
    exact (List.perm_ext_iff_of_nodup (nodup_members leftUnique) (nodup_members rightUnique)).mpr same

def lamp : Record :=
  { category := .wled, address := "10.0.0.5", port := 80, hostName := "lamp\\", live := true, expiry := .epoch }

def bridge : Record :=
  { category := .hue, address := "fe80::1\x00ü", port := 443, hostName := "bridge", live := true, expiry := .epoch }

/-- A lamp whose host name spells out the end of its own entry and a whole entry of the bridge. -/
def forgedLamp : Record :=
  { lamp with
    hostName := "lamp\\\"\x7d\x00\x7b\"category\":\"hue\",\"address\":\"fe80::1\x00ü\",\"port\":443,\"host_name\":\"bridge" }

/-- The other order with another deadline is digested from the same bytes, the forgery is not. -/
theorem bytes_eq_iff_forged :
    bytes [lamp, bridge] = bytes [{ bridge with live := false, expiry := ⟨1, 0, by decide, by decide⟩ }, lamp] ∧
      bytes [lamp, bridge] ≠ bytes [forgedLamp] := by
  constructor
  · apply (bytes_eq_iff (by decide) (by decide)).mpr
    intro member
    simp only [members, List.map_cons, List.map_nil, List.mem_cons, List.not_mem_nil, or_false]
    exact or_comm
  · intro same
    have listed := (bytes_eq_iff (by decide) (by decide)).mp same lamp.member
    exact absurd (listed.mp (by decide)) (by decide)

end Fingerprint

theorem fingerprint_eq_of_perm {left right : List Record} (unique : (left.map (·.key)).Nodup)
    (same : (members left).Perm (members right)) : fingerprint left = fingerprint right := by
  rw [fingerprint, fingerprint,
    Fingerprint.bytes_eq_iff_sorted.mpr (Fingerprint.sorted_eq_of_perm unique same)]

end Discovery
