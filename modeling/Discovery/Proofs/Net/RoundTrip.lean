import Discovery.Net.Writer
import Discovery.Proofs.Net.Announced

/-!
# Written addresses read back

Every address is spelt by the text that is written of it, and so it is read back as itself. Octets and groups are digit runs
of their numbers. In an address of version 6 a run of zero groups may be left out, and what is left in front of the gap and
behind it is, with zeros for what is missing, the whole address again.
-/
namespace Discovery.Net

open Decimal (digits hexDigits)

/-! ## Octets and groups -/

theorem spells_digits (octet : UInt8) : SpellsOctet (digits octet.toNat) octet := by
  have small : octet.toNat < 256 := octet.toNat_lt
  constructor
  · exact Decimal.positional_digits.ne_nil _
  · exact Decimal.isDigit_of_mem_digits _
  · exact Decimal.positional_digits.length_le (by decide) (by omega)
  · -- A zero that is written in front is the whole number.
    intro zero
    exact Decimal.positional_digits.length_le (by decide) (by simp [Decimal.eq_zero_of_head?_digits zero])
  · exact Decimal.value_digits _

theorem spells_writeOctets {octets : List UInt8} (present : octets ≠ []) : SpellsOctets (writeOctets octets) octets := by
  induction octets with
  | nil => exact absurd rfl present
  | cons octet octets ih =>
    cases octets with
    | nil =>
      rw [writeOctets, List.map_singleton, List.intercalate_singleton]
      exact .last (spells_digits octet)
    | cons next octets =>
      have rest := ih (List.cons_ne_nil next octets)
      simp only [writeOctets, List.map_cons] at rest ⊢
      rw [List.intercalate_cons_cons, List.append_assoc]
      exact .more (spells_digits octet) rest

theorem spells_hexDigits (group : UInt16) : SpellsGroup (hexDigits group.toNat) group := by
  have small : group.toNat < 65536 := group.toNat_lt
  constructor
  · exact Decimal.positional_hexDigits.ne_nil _
  · exact Decimal.isHexDigit_of_mem_hexDigits _
  · exact Decimal.positional_hexDigits.length_le (by decide) (by omega)
  · exact Decimal.hexTotal_hexDigits _

theorem spells_writeGroups (groups : List UInt16) : SpellsSide (writeGroups groups) groups false := by
  cases groups with
  | nil => exact .inl ⟨rfl, rfl, rfl⟩
  | cons group groups =>
    right
    induction groups generalizing group with
    | nil =>
      rw [writeGroups, List.map_singleton, List.intercalate_singleton]
      exact .last (spells_hexDigits group)
    | cons next groups ih =>
      have rest := ih next
      simp only [writeGroups, List.map_cons] at rest ⊢
      rw [List.intercalate_cons_cons, List.append_assoc]
      exact .more (spells_hexDigits group) rest

/-! ## The run of zeros that is left out -/

/-- A stretch of zero groups by its start and its length. -/
def ZeroRun (groups : List UInt16) (run : Nat × Nat) : Prop :=
  run.1 + run.2 ≤ groups.length ∧ (groups.drop run.1).take run.2 = List.replicate run.2 0

theorem zeroRun_append {groups : List UInt16} {run : Nat × Nat} (zeros : ZeroRun groups run) (more : List UInt16) :
    ZeroRun (groups ++ more) run := by
  obtain ⟨within, equal⟩ := zeros
  refine ⟨by simp only [List.length_append]; omega, ?_⟩
  rw [List.drop_append_of_le_length (by omega), List.take_append_of_le_length (by simp only [List.length_drop]; omega),
    equal]

theorem zeroRun_empty (groups : List UInt16) : ZeroRun groups (0, 0) := by simp [ZeroRun]

/-- A run that ends where the groups end is continued by one more zero. -/
theorem zeroRun_concat {groups : List UInt16} {run : Nat × Nat} (zeros : ZeroRun groups run)
    (atEnd : run.1 + run.2 = groups.length) : ZeroRun (groups ++ [0]) (run.1, run.2 + 1) := by
  obtain ⟨within, equal⟩ := zeros
  -- All that is left from the start of the run is the run.
  have whole : groups.drop run.1 = List.replicate run.2 0 := by
    rw [← equal, List.take_of_length_le (by simp only [List.length_drop]; omega)]
  refine ⟨by simp only [List.length_append, List.length_singleton]; omega, ?_⟩
  rw [List.drop_append_of_le_length (by omega), whole, ← List.replicate_succ', List.take_of_length_le (by simp)]

theorem zeroRun_longestZeros (groups passed : List UInt16) {current best : Nat × Nat}
    (here : ZeroRun passed current) (atEnd : current.2 = 0 ∨ current.1 + current.2 = passed.length)
    (there : ZeroRun passed best) :
    ZeroRun (passed ++ groups) (longestZeros groups passed.length current best) := by
  -- The invariant: `passed` has been looked at, `current` is the run that ends there, and `best` is the longest up to there.
  induction groups generalizing passed current best with
  | nil => simpa [longestZeros] using there
  | cons group rest ih =>
    have length : (passed ++ [group]).length = passed.length + 1 := by simp
    have split : passed ++ group :: rest = (passed ++ [group]) ++ rest := by simp
    rw [longestZeros, split, ← length]
    split
    next zero =>
      subst zero
      -- The run goes on, or a new one begins here.
      obtain ⟨longer, ending⟩ : ZeroRun (passed ++ [0])
            (if current.2 = 0 then passed.length else current.1, current.2 + 1) ∧
          (if current.2 = 0 then passed.length else current.1) + (current.2 + 1) = (passed ++ [0]).length := by
        split
        next none => simp [ZeroRun, none]
        next some =>
          have sum := atEnd.resolve_left some
          exact ⟨zeroRun_concat here sum, by simp only [length]; omega⟩
      generalize (if current.2 = 0 then passed.length else current.1) = start at longer ending ⊢
      refine ih (passed ++ [0]) longer (.inr ending) ?_
      split
      · exact longer
      · exact zeroRun_append there [0]
    next => exact ih (passed ++ [group]) (zeroRun_empty _) (.inl rfl) (zeroRun_append there [group])

/-- The groups with the stretch that was left out put in again. -/
theorem ZeroRun.restore {groups : List UInt16} {run : Nat × Nat} (zeros : ZeroRun groups run) :
    groups.take run.1 ++ List.replicate run.2 0 ++ groups.drop (run.1 + run.2) = groups := by
  rw [← zeros.2, List.append_assoc, ← List.drop_drop, List.take_append_drop, List.take_append_drop]

/-! ## Addresses -/

theorem spells_mapping (octets : Vector UInt8 4) :
    SpellsV6 ("::ffff:".toList ++ writeOctets octets.toList) (Address.mapping octets) := by
  have present : octets.toList ≠ [] := by
    obtain ⟨a, b, c, d, rfl⟩ := exists_octets octets
    exact List.cons_ne_nil _ _
  -- Two colons, the mark of a mapped address, and the octets: five groups are left out.
  have mark : SpellsGroup "ffff".toList 0xffff := by
    have written : hexDigits (0xffff : UInt16).toNat = "ffff".toList := by simp [hexDigits, Decimal.hexChar]
    exact written ▸ spells_hexDigits 0xffff
  have behind : SpellsGroups ("ffff".toList ++ ':' :: writeOctets octets.toList) (0xffff :: pairs octets.toList) true :=
    .more mark (.dotted (spells_writeOctets present))
  have text : "::ffff:".toList ++ writeOctets octets.toList =
      [] ++ ':' :: ':' :: ("ffff".toList ++ ':' :: writeOctets octets.toList) := rfl
  rw [text]
  exact .gap (.inl ⟨rfl, rfl, rfl⟩) (.inr behind) (by decide : 0 < 5) (Address.toList_mapping octets).symm

namespace Address

theorem spells_write (address : Address) : Spells address.write address := by
  cases address with
  | v4 octets =>
    obtain ⟨a, b, c, d, rfl⟩ := exists_octets octets
    exact .v4 (spells_writeOctets (List.cons_ne_nil a [b, c, d]))
  | v6 groups =>
    cases mapped : mapped? groups with
    | some octets =>
      have maps := mapped?_eq_some_iff.mp mapped
      subst maps
      simp only [write, mapped]
      exact .v6 (spells_mapping octets)
    | none =>
      -- It matters that what is left out is a run of zeros, not that it is the longest.
      have zeros := zeroRun_longestZeros groups.toList [] (zeroRun_empty []) (.inl rfl) (zeroRun_empty [])
      simp only [write, mapped, List.nil_append, List.length_nil] at zeros ⊢
      generalize longestZeros groups.toList 0 (0, 0) (0, 0) = run at zeros ⊢
      split
      next long =>
        rw [List.append_assoc]
        exact .v6 (.gap (spells_writeGroups _) (spells_writeGroups _) (by omega) zeros.restore)
      next =>
        rcases spells_writeGroups groups.toList with ⟨_, none, _⟩ | spells
        · have eight := groups.length_toList
          rw [none] at eight
          cases eight
        · exact .v6 (.whole spells)

theorem ofChars?_write (address : Address) : ofChars? address.write = some address :=
  ofChars?_eq_some_iff.mpr address.spells_write

end Address

/-- An address is local, as written, exactly if an interface has it in another or the same form. -/
theorem isLocal_toText {own : List Address} {address : Address} :
    (Interfaces.readable own).isLocal address.toText = true ↔ ∃ held ∈ own, held.canonical = address.canonical := by
  have written : address.toText.toList = address.write := String.toList_ofList
  have announced : announced? address.toText = some address.canonical :=
    announced?_eq_some_iff.mpr ⟨address.write, address, written ▸ dressed_self _, address.spells_write, rfl⟩
  simp only [Interfaces.isLocal, announced, List.any_eq_true, beq_iff_eq]

end Discovery.Net
