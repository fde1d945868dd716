import Mathlib.Data.List.Nodup
/-!
# Entry by entry

Options and sections are decoded from the entries of a table one after the other. Each entry takes the settings a step
further, or its fault is what the decoding comes to. Here is what can be said of it without knowing the step: which entries
have no effect, which of them a part of the settings comes from, and when their order does not matter.
-/
namespace Discovery.Entries

variable {σ α β ε : Type} {step : σ → String × α → Except ε σ}

theorem bind_eq_ok_iff {first : Except ε α} {next : α → Except ε β} {last : β} :
    first >>= next = .ok last ↔ ∃ middle, first = .ok middle ∧ next middle = .ok last := by
  cases first with
  | error fault =>
    constructor
    · intro reached
      cases reached
    · rintro ⟨middle, reached, _⟩
      cases reached
  | ok middle =>
    constructor
    · intro reached
      exact ⟨middle, rfl, reached⟩
    · rintro ⟨other, same, reached⟩
      cases same
      exact reached

theorem foldlM_cons_eq_ok_iff {entry : String × α} {rest : List (String × α)} {settings last : σ} :
    (entry :: rest).foldlM step settings = .ok last ↔
      ∃ next, step settings entry = .ok next ∧ rest.foldlM step next = .ok last := by
  rw [List.foldlM_cons, bind_eq_ok_iff]

theorem foldlM_append_eq_ok_iff {front back : List (String × α)} {settings last : σ} :
    (front ++ back).foldlM step settings = .ok last ↔
      ∃ middle, front.foldlM step settings = .ok middle ∧ back.foldlM step middle = .ok last := by
  rw [List.foldlM_append, bind_eq_ok_iff]

/-! ## Lookups -/

theorem mem_of_lookup {entries : List (String × α)} {key : String} {value : α} (found : entries.lookup key = some value) :
    (key, value) ∈ entries := by
  obtain ⟨front, back, rfl, _⟩ := List.lookup_eq_some_iff.mp found
  exact List.mem_append_right front List.mem_cons_self

theorem absent_of_lookup {entries : List (String × α)} {key : String} (missing : entries.lookup key = none) :
    key ∉ entries.map Prod.fst := by
  intro member
  obtain ⟨entry, member, same⟩ := List.mem_map.mp member
  have other := List.lookup_eq_none_iff.mp missing entry member
  rw [same, bne_self_eq_false] at other
  cases other

/-! ## Success -/

/-- Where it does not depend on the settings which entries are taken, a decoding succeeds just if they all are. -/
theorem exists_foldlM_eq_ok_iff {Taken : String × α → Prop}
    (each : ∀ settings entry, (∃ next, step settings entry = .ok next) ↔ Taken entry) (entries : List (String × α))
    (settings : σ) : (∃ last, entries.foldlM step settings = .ok last) ↔ ∀ entry ∈ entries, Taken entry := by
  induction entries generalizing settings with
  | nil =>
    constructor
    · intro _ entry member
      cases member
    · intro _
      exact ⟨settings, rfl⟩
  | cons entry rest ih =>
    rw [List.forall_mem_cons]
    constructor
    · rintro ⟨last, decoded⟩
      obtain ⟨next, taken, decoded⟩ := foldlM_cons_eq_ok_iff.mp decoded
      exact ⟨(each settings entry).mp ⟨next, taken⟩, (ih next).mp ⟨last, decoded⟩⟩
    · rintro ⟨taken, others⟩
      obtain ⟨next, taken⟩ := (each settings entry).mpr taken
      obtain ⟨last, decoded⟩ := (ih next).mpr others
      exact ⟨last, foldlM_cons_eq_ok_iff.mpr ⟨next, taken, decoded⟩⟩

/-- Two entries under different keys can change places without the settings being any different for it. -/
def Exchanges (step : σ → String × α → Except ε σ) : Prop :=
  ∀ {settings middle last : σ} {first second : String × α}, first.1 ≠ second.1 → step settings first = .ok middle →
    step middle second = .ok last → ∃ other, step settings second = .ok other ∧ step other first = .ok last

/-- Entries under different keys that are taken in one order are taken in every other, to the same settings. -/
theorem Exchanges.foldlM_perm (exchanges : Exchanges step) {entries others : List (String × α)}
    (same : entries.Perm others) (distinct : (entries.map Prod.fst).Nodup) {settings last : σ}
    (decoded : entries.foldlM step settings = .ok last) : others.foldlM step settings = .ok last := by
  -- A permutation is made of exchanges of neighbours, and after each of them the keys are still distinct.
  induction same generalizing settings with
  | nil => exact decoded
  | cons entry _ ih =>
    obtain ⟨next, taken, decoded⟩ := foldlM_cons_eq_ok_iff.mp decoded
    exact foldlM_cons_eq_ok_iff.mpr ⟨next, taken, ih (List.nodup_cons.mp distinct).2 decoded⟩
  | swap second first rest =>
    obtain ⟨middle, taken, decoded⟩ := foldlM_cons_eq_ok_iff.mp decoded
    obtain ⟨next, also, decoded⟩ := foldlM_cons_eq_ok_iff.mp decoded
    have differ : first.1 ≠ second.1 := by
      intro equal
      apply (List.nodup_cons.mp distinct).1
      exact List.mem_cons.mpr (.inl equal)
    obtain ⟨other, earlier, later⟩ := exchanges differ taken also
    exact foldlM_cons_eq_ok_iff.mpr ⟨other, earlier, foldlM_cons_eq_ok_iff.mpr ⟨next, later, decoded⟩⟩
  | trans between _ ih ih' => exact ih' ((between.map Prod.fst).nodup_iff.mp distinct) (ih distinct decoded)

/-! ## Parts of the settings -/

/-- Only an entry under this key changes this part of the settings. -/
def Keeps (step : σ → String × α → Except ε σ) (key : String) (part : σ → β) : Prop :=
  ∀ {settings next : σ} {entry : String × α}, step settings entry = .ok next → entry.1 ≠ key → part next = part settings

theorem Keeps.foldlM_of_absent {key : String} {part : σ → β} (keeps : Keeps step key part) {entries : List (String × α)}
    (absent : key ∉ entries.map Prod.fst) {settings last : σ} (decoded : entries.foldlM step settings = .ok last) :
    part last = part settings := by
  induction entries generalizing settings with
  | nil =>
    cases decoded
    rfl
  | cons entry rest ih =>
    rw [List.map_cons, List.mem_cons, not_or] at absent
    obtain ⟨next, taken, decoded⟩ := foldlM_cons_eq_ok_iff.mp decoded
    rw [ih absent.2 decoded]
    exact keeps taken (Ne.symm absent.1)

/-- Where no key occurs twice, a part of the settings is as the entry under its key has left it. -/
theorem Keeps.foldlM_of_mem {key : String} {part : σ → β} (keeps : Keeps step key part) {entries : List (String × α)}
    (distinct : (entries.map Prod.fst).Nodup) {value : α} (member : (key, value) ∈ entries) {settings last : σ}
    (decoded : entries.foldlM step settings = .ok last) :
    ∃ before after, step before (key, value) = .ok after ∧ part last = part after := by
  -- What comes before the entry is overwritten by it, and what comes behind it has other keys.
  obtain ⟨front, back, rfl⟩ := List.append_of_mem member
  obtain ⟨before, _, decoded⟩ := foldlM_append_eq_ok_iff.mp decoded
  obtain ⟨after, taken, decoded⟩ := foldlM_cons_eq_ok_iff.mp decoded
  have absent : key ∉ back.map Prod.fst := by
    rw [List.map_append, List.map_cons] at distinct
    exact (List.nodup_cons.mp (List.nodup_append.mp distinct).2.1).1
  exact ⟨before, after, taken, keeps.foldlM_of_absent absent decoded⟩

/-! ## Entries without effect -/

/-- An entry that leaves the settings as they are where it stands may as well be absent. -/
theorem foldlM_insert {front : List (String × α)} {settings : σ} {entry : String × α}
    (idle : ∀ middle, front.foldlM step settings = .ok middle → step middle entry = .ok middle) (back : List (String × α)) :
    (front ++ entry :: back).foldlM step settings = (front ++ back).foldlM step settings := by
  rw [List.foldlM_append, List.foldlM_append]
  -- If the decoding fails before the entry is reached, the entry is not looked at.
  cases decoded : front.foldlM step settings with
  | error fault => rfl
  | ok middle =>
    have passed : (entry :: back).foldlM step middle = back.foldlM step middle := by
      rw [List.foldlM_cons, idle middle decoded]
      rfl
    exact passed

/-- An entry may be replaced by one that does the same to any settings. -/
theorem foldlM_replace {entry other : String × α} (same : ∀ settings, step settings entry = step settings other)
    (front back : List (String × α)) (settings : σ) :
    (front ++ entry :: back).foldlM step settings = (front ++ other :: back).foldlM step settings := by
  simp only [List.foldlM_append, List.foldlM_cons, same]

/-- Two decodings that come to related settings or to the same fault. -/
inductive Alike (Related : σ → σ → Prop) : Except ε σ → Except ε σ → Prop
  | error (fault : ε) : Alike Related (.error fault) (.error fault)
  | ok {settings others : σ} : Related settings others → Alike Related (.ok settings) (.ok others)

/-- Related settings stay related through entries each of which preserves that. -/
theorem alike_foldlM {Related : σ → σ → Prop} {entries : List (String × α)}
    (each : ∀ entry ∈ entries, ∀ {settings others}, Related settings others →
      Alike Related (step settings entry) (step others entry))
    {settings others : σ} (related : Related settings others) :
    Alike Related (entries.foldlM step settings) (entries.foldlM step others) := by
  induction entries generalizing settings others with
  | nil => exact .ok related
  | cons entry rest ih =>
    -- After the first entry both have failed, and in the same way, or both go on from related settings.
    have first := each entry List.mem_cons_self related
    rw [List.foldlM_cons, List.foldlM_cons]
    generalize step settings entry = left at first
    generalize step others entry = right at first
    cases first with
    | error fault => exact .error fault
    | ok related => exact ih (fun entry member => each entry (List.mem_cons_of_mem _ member)) related

end Discovery.Entries
