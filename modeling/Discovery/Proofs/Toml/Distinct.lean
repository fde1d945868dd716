import Discovery.Proofs.Entries
import Discovery.Toml.Reader
/-!
# Tables without duplicate keys

A document that is read never gives a key of a table twice: tables grow by putting an item under a key that is free or in
the place of what stands under it. So whatever a document describes is free of duplicate keys, at any depth.
-/
namespace Discovery.Toml

/-- No table in the value has a key twice. -/
inductive Value.Distinct : Value → Prop
  | text (value : String) : Distinct (.text value)
  | integer (value : Int) : Distinct (.integer value)
  | float (value : Decimal.Binary64) : Distinct (.float value)
  | boolean (value : Bool) : Distinct (.boolean value)
  | moment (value : DateTime) : Distinct (.moment value)
  | array {items : List Value} : (∀ item ∈ items, Distinct item) → Distinct (.array items)
  | table {entries : Table} : (entries.map Prod.fst).Nodup → (∀ entry ∈ entries, Distinct entry.2) →
      Distinct (.table entries)

theorem Value.Distinct.keys {entries : Table} (distinct : (Value.table entries).Distinct) :
    (entries.map Prod.fst).Nodup := by
  cases distinct with
  | table keys _ => exact keys

theorem Value.Distinct.values {entries : Table} (distinct : (Value.table entries).Distinct) {entry : String × Value}
    (member : entry ∈ entries) : entry.2.Distinct := by
  cases distinct with
  | table _ values => exact values entry member

/-! ## Tables under construction -/

theorem elementsToValues_eq_map (elements : List Section) : elementsToValues elements = elements.map Section.toValue := by
  induction elements with
  | nil => rfl
  | cons element rest ih => rw [elementsToValues, ih, List.map_cons]

theorem entriesToValues_eq_map (entries : List (String × Item)) :
    entriesToValues entries = entries.map fun entry => (entry.1, entry.2.toValue) := by
  induction entries with
  | nil => rfl
  | cons entry rest ih => rw [entriesToValues, ih, List.map_cons]

namespace Section

/-- The table that has been built so far has no key twice. -/
def Distinct (body : Section) : Prop := body.toValue.Distinct

theorem distinct_iff {body : Section} :
    body.Distinct ↔ (body.entries.map Prod.fst).Nodup ∧ ∀ entry ∈ body.entries, entry.2.toValue.Distinct := by
  obtain ⟨origin, held⟩ := body
  have keys : (entriesToValues held).map Prod.fst = held.map Prod.fst := by
    rw [entriesToValues_eq_map, List.map_map]
    rfl
  rw [Distinct, toValue, entries, ← keys]
  constructor
  · intro distinct
    refine ⟨distinct.keys, fun entry member => ?_⟩
    have built : (entry.1, entry.2.toValue) ∈ entriesToValues held := by
      rw [entriesToValues_eq_map]
      exact List.mem_map_of_mem member
    exact distinct.values built
  · rintro ⟨nodup, values⟩
    apply Value.Distinct.table nodup
    intro built member
    rw [entriesToValues_eq_map] at member
    obtain ⟨entry, within, rfl⟩ := List.mem_map.mp member
    exact values entry within

theorem distinct_empty (origin : Origin) : (empty origin).Distinct := by
  rw [distinct_iff]
  simp [empty, entries]

theorem distinct_of_find? {body : Section} (distinct : body.Distinct) {key : String} {item : Item}
    (found : body.find? key = some item) : item.toValue.Distinct := by
  exact (distinct_iff.mp distinct).2 (key, item) (Entries.mem_of_lookup found)

theorem distinct_put {body : Section} (distinct : body.Distinct) (item : Item) (whole : item.toValue.Distinct)
    (key : String) : (body.put key item).Distinct := by
  obtain ⟨nodup, values⟩ := distinct_iff.mp distinct
  rw [distinct_iff, put]
  split
  next present =>
    -- An item in the place of another leaves the keys as they are.
    have keys : (body.entries.map fun entry => if entry.1 == key then (key, item) else entry).map Prod.fst =
        body.entries.map Prod.fst := by
      rw [List.map_map]
      apply List.map_congr_left
      intro entry _
      rw [Function.comp_apply]
      split
      next same => exact (beq_iff_eq.mp same).symm
      next => rfl
    refine ⟨(congrArg List.Nodup keys).mpr nodup, fun changed member => ?_⟩
    obtain ⟨entry, within, rfl⟩ := List.mem_map.mp member
    split
    next => exact whole
    next => exact values entry within
  next absent =>
    -- A new key stands behind the others, and is none of them.
    have free : key ∉ body.entries.map Prod.fst := by
      intro member
      obtain ⟨entry, member, same⟩ := List.mem_map.mp member
      exact absent (List.any_eq_true.mpr ⟨entry, member, beq_iff_eq.mpr same⟩)
    simp only [entries, List.map_append, List.map_cons, List.map_nil]
    refine ⟨List.nodup_append.mpr ⟨nodup, List.nodup_singleton key, ?_⟩, ?_⟩
    · intro held member other single
      rw [List.mem_singleton.mp single]
      intro same
      exact free (same ▸ member)
    · rw [List.forall_mem_append]
      exact ⟨values, List.forall_mem_singleton.mpr whole⟩

theorem distinct_erase {body : Section} (distinct : body.Distinct) (key : String) : (body.erase key).Distinct := by
  obtain ⟨nodup, values⟩ := distinct_iff.mp distinct
  rw [distinct_iff, erase]
  refine ⟨nodup.sublist (List.filter_sublist.map Prod.fst), fun entry member => ?_⟩
  exact values entry (List.mem_filter.mp member).1

/-- A change that leaves no key twice where there was none twice before. -/
def Preserves (change : Section → Option Section) : Prop :=
  ∀ {body next : Section}, body.Distinct → change body = some next → next.Distinct

theorem distinct_elements {elements : List Section} :
    (Item.tables elements).toValue.Distinct ↔ ∀ element ∈ elements, element.Distinct := by
  rw [Item.toValue, elementsToValues_eq_map]
  constructor
  · intro distinct element member
    cases distinct with
    | array each => exact each _ (List.mem_map_of_mem member)
  · intro each
    apply Value.Distinct.array
    intro value member
    obtain ⟨element, within, rfl⟩ := List.mem_map.mp member
    exact each element within

theorem distinct_changeLast {change : Section → Option Section} (preserves : Preserves change)
    {elements changed : List Section} (each : ∀ element ∈ elements, element.Distinct)
    (done : changeLast change elements = some changed) : ∀ element ∈ changed, element.Distinct := by
  induction elements generalizing changed with
  | nil => cases done
  | cons first rest ih =>
    obtain ⟨own, others⟩ := List.forall_mem_cons.mp each
    cases rest with
    | nil =>
      obtain ⟨last, changed, same⟩ := Option.bind_eq_some_iff.mp done
      cases same
      exact List.forall_mem_singleton.mpr (preserves own changed)
    | cons second rest =>
      obtain ⟨later, changed, same⟩ := Option.bind_eq_some_iff.mp done
      cases same
      exact List.forall_mem_cons.mpr ⟨own, ih others changed⟩

theorem preserves_changeAt {making : Origin} {change : Section → Option Section} (preserves : Preserves change)
    (path : List String) : Preserves (changeAt making change path) := by
  -- However the path goes on, what is changed below the key is put back under it.
  induction path with
  | nil => exact preserves
  | cons key rest ih =>
    intro body next distinct done
    rw [changeAt] at done
    split at done
    next absent =>
      obtain ⟨made, changed, same⟩ := Option.bind_eq_some_iff.mp done
      cases same
      exact distinct_put distinct (.table made) (ih (distinct_empty making) changed) key
    next => cases done
    next elements found =>
      obtain ⟨others, changed, same⟩ := Option.bind_eq_some_iff.mp done
      cases same
      have each := distinct_elements.mp (distinct_of_find? distinct found)
      exact distinct_put distinct (.tables others) (distinct_elements.mpr (distinct_changeLast ih each changed)) key
    next inner found =>
      split at done
      next => cases done
      next =>
        obtain ⟨other, changed, same⟩ := Option.bind_eq_some_iff.mp done
        cases same
        have own : inner.Distinct := distinct_of_find? distinct found
        exact distinct_put distinct (.table other) (ih own changed) key

theorem preserves_insert {value : Value} (whole : value.Distinct) (path : List String) (key : String) :
    Preserves (insert path key value) := by
  apply preserves_changeAt
  intro body next distinct done
  dsimp only at done
  split at done
  next => cases done
  next =>
    rw [insertNew] at done
    split at done
    next => cases done
    next =>
      cases done
      exact distinct_put distinct (.value value) whole key

end Section

/-! ## Values -/

/-- A reader of values none of which has a table with a key twice. -/
def ReadsDistinct (read : List Char → Option (Value × List Char)) : Prop :=
  ∀ {text rest : List Char} {value : Value}, read text = some (value, rest) → value.Distinct

theorem distinct_readItems {item : List Char → Option (Value × List Char)} (each : ReadsDistinct item) {fuel : Nat}
    {text rest : List Char} {items : List Value} (read : readItems item fuel text = some (items, rest)) :
    ∀ item ∈ items, item.Distinct := by
  induction fuel generalizing text rest items with
  | zero => cases read
  | succ fuel ih =>
    rw [readItems] at read
    split at read
    next =>
      cases read
      exact List.forall_mem_nil _
    next =>
      obtain ⟨⟨value, left⟩, first, read⟩ := Option.bind_eq_some_iff.mp read
      dsimp only at read
      split at read
      next =>
        cases read
        exact List.forall_mem_singleton.mpr (each first)
      next =>
        obtain ⟨⟨values, left⟩, later, same⟩ := Option.bind_eq_some_iff.mp read
        cases same
        exact List.forall_mem_cons.mpr ⟨each first, ih later⟩
      next => cases read

theorem distinct_readEntry {item : List Char → Option (Value × List Char)} (each : ReadsDistinct item)
    {text rest : List Char} {path : List String} {key : String} {value : Value}
    (read : readEntry item text = some ((path, key, value), rest)) : value.Distinct := by
  obtain ⟨⟨_, _, left⟩, _, read⟩ := Option.bind_eq_some_iff.mp read
  dsimp only at read
  split at read
  next =>
    obtain ⟨⟨held, left⟩, first, same⟩ := Option.bind_eq_some_iff.mp read
    cases same
    exact each first
  next => cases read

theorem distinct_readEntries {item : List Char → Option (Value × List Char)} (each : ReadsDistinct item) {fuel : Nat}
    {body next : Section} (distinct : body.Distinct) {text rest : List Char}
    (read : readEntries item fuel body text = some (next, rest)) : next.Distinct := by
  induction fuel generalizing body text with
  | zero => cases read
  | succ fuel ih =>
    obtain ⟨⟨⟨path, key, value⟩, left⟩, first, read⟩ := Option.bind_eq_some_iff.mp read
    obtain ⟨grown, inserted, read⟩ := Option.bind_eq_some_iff.mp read
    -- An inline table grows entry by entry, as a table of the document does.
    have whole : grown.Distinct := Section.preserves_insert (distinct_readEntry each first) path key distinct inserted
    split at read
    next =>
      cases read
      exact whole
    next => exact ih whole read
    next => cases read

theorem readsDistinct_readInline {item : List Char → Option (Value × List Char)} (each : ReadsDistinct item) :
    ReadsDistinct (readInline item) := by
  intro text rest value read
  rw [readInline] at read
  split at read
  next =>
    cases read
    exact .table List.nodup_nil (List.forall_mem_nil _)
  next =>
    obtain ⟨⟨body, left⟩, read, same⟩ := Option.bind_eq_some_iff.mp read
    cases same
    exact distinct_readEntries each (Section.distinct_empty .header) read

theorem readsDistinct_readBase (base : Nat) : ReadsDistinct (readBase base) := by
  intro text rest value read
  obtain ⟨⟨run, left⟩, _, read⟩ := Option.bind_eq_some_iff.mp read
  dsimp only at read
  split at read
  next =>
    cases read
    exact .integer _
  next => cases read

theorem readsDistinct_readDecimal (negative : Bool) : ReadsDistinct (readDecimal negative) := by
  intro text rest value read
  obtain ⟨⟨whole, left⟩, _, read⟩ := Option.bind_eq_some_iff.mp read
  obtain ⟨⟨places, left⟩, _, read⟩ := Option.bind_eq_some_iff.mp read
  obtain ⟨⟨power, left⟩, _, read⟩ := Option.bind_eq_some_iff.mp read
  -- Stated for any number, so that the number in question is not computed.
  have integer : ∀ number, (if inRange number then some (Value.integer number, left) else none) = some (value, rest) →
      value.Distinct := by
    intro number read
    split at read
    next =>
      cases read
      exact .integer number
    next => cases read
  have float : ∀ number, (if number = .infinite false then none else some (Value.float number, left)) =
      some (value, rest) → value.Distinct := by
    intro number read
    split at read
    next => cases read
    next =>
      cases read
      exact .float number
  dsimp only at read
  by_cases plain : places.isNone ∧ power.isNone
  · rw [if_pos plain] at read
    exact integer _ read
  · rw [if_neg plain] at read
    exact float _ read

theorem readsDistinct_readNumber : ReadsDistinct readNumber := by
  intro text rest value read
  unfold readNumber at read
  split at read
  next =>
    obtain ⟨⟨moment, left⟩, _, same⟩ := Option.map_eq_some_iff.mp read
    cases same
    exact .moment moment
  next =>
    split at read
    next => exact readsDistinct_readBase 16 read
    next => exact readsDistinct_readBase 8 read
    next => exact readsDistinct_readBase 2 read
    next =>
      dsimp only at read
      split at read
      next =>
        cases read
        exact .float _
      next =>
        cases read
        exact .float _
      next => exact readsDistinct_readDecimal _ read

theorem readsDistinct_readValue (depth : Nat) : ReadsDistinct (readValue depth) := by
  -- Only arrays and inline tables depend on the depth: what stands in them is read with less of it.
  induction depth using Nat.strongRecOn with
  | ind depth ih =>
    intro text rest value read
    unfold readValue at read
    split at read
    next =>
      obtain ⟨⟨chars, left⟩, _, same⟩ := Option.bind_eq_some_iff.mp read
      cases same
      exact .text _
    next =>
      obtain ⟨⟨chars, left⟩, _, same⟩ := Option.bind_eq_some_iff.mp read
      cases same
      exact .text _
    next =>
      cases read
      exact .boolean true
    next =>
      cases read
      exact .boolean false
    next =>
      split at read
      next => cases read
      next less =>
        obtain ⟨⟨items, left⟩, read, same⟩ := Option.bind_eq_some_iff.mp read
        cases same
        exact .array (distinct_readItems (ih less (Nat.lt_add_one less)) read)
    next =>
      split at read
      next => cases read
      next less => exact readsDistinct_readInline (ih less (Nat.lt_add_one less)) read
    next => exact readsDistinct_readNumber read

/-! ## Documents -/

/-- The value that a statement gives, if it gives one, has no table with a key twice. -/
def Statement.Distinct : Statement → Prop
  | entry _ _ value => value.Distinct
  | header _ _ => True
  | element _ _ => True

theorem distinct_readStatement {text rest : List Char} {statement : Statement}
    (read : readStatement text = some (statement, rest)) : statement.Distinct := by
  unfold readStatement at read
  split at read
  next =>
    obtain ⟨⟨path, key, left⟩, _, read⟩ := Option.bind_eq_some_iff.mp read
    dsimp only at read
    split at read
    next =>
      obtain ⟨_, _, same⟩ := Option.bind_eq_some_iff.mp read
      cases same
      trivial
    next => cases read
  next =>
    obtain ⟨⟨path, key, left⟩, _, read⟩ := Option.bind_eq_some_iff.mp read
    dsimp only at read
    split at read
    next =>
      obtain ⟨_, _, same⟩ := Option.bind_eq_some_iff.mp read
      cases same
      trivial
    next => cases read
  next =>
    obtain ⟨⟨⟨path, key, value⟩, left⟩, first, read⟩ := Option.bind_eq_some_iff.mp read
    obtain ⟨_, _, same⟩ := Option.bind_eq_some_iff.mp read
    cases same
    exact distinct_readEntry (readsDistinct_readValue _) first

theorem distinct_readStatements {fuel : Nat} {text : List Char} {statements : List Statement}
    (read : readStatements fuel text = some statements) : ∀ statement ∈ statements, statement.Distinct := by
  induction fuel generalizing text statements with
  | zero => cases read
  | succ fuel ih =>
    unfold readStatements at read
    split at read
    next =>
      cases read
      exact List.forall_mem_nil _
    next =>
      obtain ⟨_, _, read⟩ := Option.bind_eq_some_iff.mp read
      exact ih read
    next => exact ih read
    next => exact ih read
    next =>
      obtain ⟨⟨statement, left⟩, first, read⟩ := Option.bind_eq_some_iff.mp read
      obtain ⟨later, others, same⟩ := Option.bind_eq_some_iff.mp read
      cases same
      exact List.forall_mem_cons.mpr ⟨distinct_readStatement first, ih others⟩

namespace Draft

/-- Neither the document nor the table under construction has a key twice. -/
structure Distinct (draft : Draft) : Prop where
  root : draft.root.Distinct
  current : draft.current.Distinct

theorem distinct_settle {draft : Draft} (distinct : draft.Distinct) {settled : Section}
    (done : draft.settle = some settled) : settled.Distinct := by
  unfold settle at done
  -- The table under construction is the document itself, one of its tables, or the last of the tables under its key.
  split at done
  next =>
    cases done
    exact distinct.current
  next path key _ =>
    refine Section.preserves_changeAt ?_ path distinct.root done
    intro parent next whole changed
    cases changed
    exact Section.distinct_put whole (.table draft.current) distinct.current key
  next path key _ =>
    refine Section.preserves_changeAt ?_ path distinct.root done
    intro parent next whole changed
    dsimp only at changed
    split at changed
    next elements found =>
      cases changed
      have each := Section.distinct_elements.mp (Section.distinct_of_find? whole found)
      apply Section.distinct_put whole
      apply Section.distinct_elements.mpr
      exact List.forall_mem_append.mpr ⟨each, List.forall_mem_singleton.mpr distinct.current⟩
    next => cases changed
    next =>
      cases changed
      apply Section.distinct_put whole
      exact Section.distinct_elements.mpr (List.forall_mem_singleton.mpr distinct.current)

theorem distinct_opened? {parent opened : Section} {key : String} (distinct : parent.Distinct)
    (done : opened? parent key = some opened) : opened.Distinct := by
  unfold opened? at done
  split at done
  next =>
    cases done
    exact Section.distinct_empty .header
  next entries found =>
    cases done
    -- Where a table comes from is no part of what it holds.
    have whole : (Section.mk .implied entries).Distinct := Section.distinct_of_find? distinct found
    exact Section.distinct_iff.mpr (Section.distinct_iff.mp whole)
  next => cases done

theorem distinct_lookAt {root found : Section} {path : List String} (distinct : root.Distinct)
    (done : lookAt root path = some found) : found.Distinct := by
  induction path generalizing root with
  | nil =>
    cases done
    exact distinct
  | cons key rest ih =>
    unfold lookAt at done
    split at done
    next => exact ih (Section.distinct_empty .implied) done
    next => cases done
    next elements held =>
      obtain ⟨last, latest, done⟩ := Option.bind_eq_some_iff.mp done
      have each := Section.distinct_elements.mp (Section.distinct_of_find? distinct held)
      exact ih (each last (List.mem_of_getLast? latest)) done
    next inner held =>
      have own : inner.Distinct := Section.distinct_of_find? distinct held
      exact ih own done

theorem distinct_take {draft next : Draft} (distinct : draft.Distinct) {statement : Statement}
    (whole : statement.Distinct) (done : draft.take statement = some next) : next.Distinct := by
  unfold take at done
  split at done
  next path key value =>
    obtain ⟨current, inserted, same⟩ := Option.bind_eq_some_iff.mp done
    cases same
    exact ⟨distinct.root, Section.preserves_insert whole path key distinct.current inserted⟩
  next path key =>
    obtain ⟨root, settled, done⟩ := Option.bind_eq_some_iff.mp done
    obtain ⟨parent, looked, done⟩ := Option.bind_eq_some_iff.mp done
    obtain ⟨current, opened, done⟩ := Option.bind_eq_some_iff.mp done
    obtain ⟨left, taken, same⟩ := Option.bind_eq_some_iff.mp done
    cases same
    have settled := distinct_settle distinct settled
    -- While a table is under construction, what stands under its key is taken out of the document.
    have erased : Section.Preserves fun parent => some (parent.erase key) := by
      intro body next whole changed
      cases changed
      exact Section.distinct_erase whole key
    exact ⟨Section.preserves_changeAt erased path settled taken, distinct_opened? (distinct_lookAt settled looked) opened⟩
  next path key =>
    obtain ⟨root, settled, done⟩ := Option.bind_eq_some_iff.mp done
    obtain ⟨parent, looked, done⟩ := Option.bind_eq_some_iff.mp done
    have opened : Draft.Distinct ⟨root, .empty .header, .element path key⟩ :=
      ⟨distinct_settle distinct settled, Section.distinct_empty .header⟩
    split at done
    next =>
      cases done
      exact opened
    next =>
      cases done
      exact opened
    next => cases done

theorem distinct_foldlM_take {statements : List Statement} (whole : ∀ statement ∈ statements, statement.Distinct)
    {draft last : Draft} (distinct : draft.Distinct) (done : statements.foldlM take draft = some last) :
    last.Distinct := by
  induction statements generalizing draft with
  | nil =>
    cases done
    exact distinct
  | cons statement rest ih =>
    obtain ⟨own, others⟩ := List.forall_mem_cons.mp whole
    rw [List.foldlM_cons] at done
    obtain ⟨next, taken, done⟩ := Option.bind_eq_some_iff.mp done
    exact ih others (distinct_take distinct own taken) done

end Draft

/-- No table of a document has a key twice. -/
theorem distinct_of_ofText? {text : String} {table : Table} (read : ofText? text = some table) :
    (Value.table table).Distinct := by
  obtain ⟨statements, parsed, read⟩ := Option.bind_eq_some_iff.mp read
  obtain ⟨draft, taken, read⟩ := Option.bind_eq_some_iff.mp read
  obtain ⟨settled, done, same⟩ := Option.bind_eq_some_iff.mp read
  cases same
  have start : Draft.empty.Distinct := ⟨Section.distinct_empty .header, Section.distinct_empty .header⟩
  have whole := Draft.distinct_foldlM_take (distinct_readStatements parsed) start taken
  have distinct : settled.Distinct := Draft.distinct_settle whole done
  obtain ⟨origin, entries⟩ := settled
  exact distinct

end Discovery.Toml
