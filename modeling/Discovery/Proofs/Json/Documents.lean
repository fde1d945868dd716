import Discovery.Proofs.Json.Strings
import Mathlib.Data.List.Nodup
/-!
# Written documents read back

The compact text of a value reads back as that value, with the fields of its objects as they stood, provided that the
value holds no floating point number and only integers that 64 bits express. The text has no control character in it, so
no line end, whatever its strings hold.
-/
namespace Discovery.Json

open Decimal (digits isDigit takeDigits)

/-- No floating point number is in the value, and every integer in it can be read as one. -/
inductive Exact : Json → Prop
  | null : Exact null
  | boolean (value : Bool) : Exact (boolean value)
  | integer {value : Int} : -(Decimal.twoTo 63 : Int) ≤ value → value < Decimal.twoTo 64 → Exact (integer value)
  | string (value : String) : Exact (string value)
  | array {items : List Json} : (∀ item ∈ items, Exact item) → Exact (array items)
  | object {fields : Fields} : (∀ field ∈ fields, Exact field.2) → Exact (object fields)

/-! ## No control characters -/

/-- None of the characters below the blank, where the line ends are. -/
def Printable (text : List Char) : Prop := ∀ char ∈ text, 32 ≤ char.toNat

instance : DecidablePred Printable := List.decidableBAll fun char : Char => 32 ≤ char.toNat

theorem printable_append {front rest : List Char} : Printable (front ++ rest) ↔ Printable front ∧ Printable rest :=
  List.forall_mem_append

theorem printable_cons {char : Char} {rest : List Char} :
    Printable (char :: rest) ↔ 32 ≤ char.toNat ∧ Printable rest := List.forall_mem_cons

theorem printable_nil : Printable [] := List.forall_mem_nil _

theorem printable_hexPadded (width number : Nat) : Printable (Decimal.hexPadded width number) := by
  have every : ∀ rest < 16, 32 ≤ (Decimal.hexChar rest).toNat := by decide
  induction width generalizing number with
  | zero => exact printable_nil
  | succ width ih =>
    have same : Decimal.hexChar (number % 16) = Decimal.hexChar (number % 16 % 16) := by simp
    refine printable_append.mpr ⟨ih _, printable_cons.mpr ⟨?_, printable_nil⟩⟩
    exact every _ (Nat.mod_lt _ (by decide))

theorem printable_escape (char : Char) : Printable (escape char) := by
  unfold escape
  repeat' split
  any_goals decide
  next => exact printable_cons.mpr ⟨by decide, printable_cons.mpr ⟨by decide, printable_hexPadded 4 _⟩⟩
  next visible => exact printable_cons.mpr ⟨Nat.le_of_not_lt visible, printable_nil⟩

theorem printable_quoted (text : List Char) : Printable (quoted text) := by
  refine printable_append.mpr ⟨printable_cons.mpr ⟨by decide, ?_⟩, by decide⟩
  intro char member
  obtain ⟨source, _, inside⟩ := List.mem_flatMap.mp member
  exact printable_escape source char inside

theorem printable_digits (number : Nat) : Printable (digits number) := by
  intro char member
  have digit := Decimal.isDigit_iff.mp (Decimal.isDigit_of_mem_digits number char member)
  omega

theorem printable_signed (number : Int) : Printable (Decimal.signed number) := by
  refine printable_append.mpr ⟨?_, printable_digits _⟩
  split <;> decide

/-- What holds of every item's text and of a comma holds of the items' text. -/
theorem printable_writeItems {items : List Json} (each : ∀ item ∈ items, Printable item.write) :
    Printable (writeItems items) := by
  induction items with
  | nil => exact printable_nil
  | cons item rest ih =>
    obtain ⟨first, others⟩ := List.forall_mem_cons.mp each
    cases rest with
    | nil => exact first
    | cons next rest => exact printable_append.mpr ⟨first, printable_cons.mpr ⟨by decide, ih others⟩⟩

theorem printable_writeField {field : String × Json} (value : Printable field.2.write) : Printable (writeField field) := by
  obtain ⟨key, held⟩ := field
  rw [writeField_mk]
  exact printable_append.mpr ⟨printable_quoted _, printable_cons.mpr ⟨by decide, value⟩⟩

theorem printable_writeFields {fields : Fields} (each : ∀ field ∈ fields, Printable field.2.write) :
    Printable (writeFields fields) := by
  induction fields with
  | nil => exact printable_nil
  | cons field rest ih =>
    obtain ⟨first, others⟩ := List.forall_mem_cons.mp each
    have own := printable_writeField first
    cases rest with
    | nil => exact own
    | cons next rest => exact printable_append.mpr ⟨own, printable_cons.mpr ⟨by decide, ih others⟩⟩

/-- The text of a value holds no control character: strings escape them, and nothing else is written with one. -/
theorem printable_write {value : Json} (whole : value.Exact) : Printable value.write := by
  induction whole with
  | null => decide
  | boolean value => cases value <;> decide
  | integer => exact printable_signed _
  | string value => exact printable_quoted _
  | array _ ih =>
    rw [write_array]
    exact printable_append.mpr ⟨printable_cons.mpr ⟨by decide, printable_writeItems ih⟩, by decide⟩
  | object _ ih =>
    rw [write_object]
    exact printable_append.mpr ⟨printable_cons.mpr ⟨by decide, printable_writeFields ih⟩, by decide⟩

/-! ## Numbers -/

/-- Nothing that could continue a number follows. -/
def Stops (rest : List Char) : Prop :=
  ∀ char ∈ rest.head?, isDigit char = false ∧ char ≠ '.' ∧ char ≠ 'e' ∧ char ≠ 'E'

theorem readWhole_digits (number : Nat) {rest : List Char} (stops : Stops rest) :
    readWhole (digits number ++ rest) = some (digits number, rest) := by
  have split : takeDigits (digits number ++ rest) = (digits number, rest) :=
    span_append_of_stop (Decimal.isDigit_of_mem_digits number) fun char first => (stops char first).1
  obtain ⟨first, more, written⟩ := List.exists_cons_of_ne_nil (Decimal.positional_digits.ne_nil number)
  rw [readWhole, split]
  by_cases zero : first = '0'
  · have none : number = 0 := Decimal.eq_zero_of_head?_digits (by rw [written, zero]; rfl)
    have single : digits 0 = ['0'] := by
      rw [digits]
      rfl
    rw [none, single]
    rfl
  · rw [written]
    split
    next taken => cases taken
    next taken =>
      cases taken
      exact absurd rfl zero
    next taken =>
      cases taken
      exact absurd rfl zero
    next taken =>
      cases taken
      rfl

theorem readFraction_of_stops {rest : List Char} (stops : Stops rest) : readFraction rest = some (none, rest) := by
  unfold readFraction
  split
  next => exact absurd rfl (stops '.' rfl).2.1
  next => rfl

theorem readExponent_of_stops {rest : List Char} (stops : Stops rest) : readExponent rest = some (none, rest) := by
  unfold readExponent
  split
  next char rest =>
    have other := (stops char rfl).2.2
    simp [other]
  next => rfl

theorem wholeNumber?_natAbs {number : Int} (least : -(Decimal.twoTo 63 : Int) ≤ number)
    (greatest : number < Decimal.twoTo 64) : wholeNumber? (decide (number < 0)) number.natAbs = some number := by
  unfold wholeNumber?
  -- The bounds are left as they stand; nothing depends on what they are.
  generalize Decimal.twoTo 63 = low at *
  generalize Decimal.twoTo 64 = high at *
  by_cases negative : number < 0
  · have size : 0 < number.natAbs ∧ number.natAbs ≤ low := by omega
    simp only [negative, decide_true, if_true, if_pos size, Int.ofNat_natAbs_of_nonpos (Int.le_of_lt negative), Int.neg_neg]
  · have size : number.natAbs < high := by omega
    simp only [negative, decide_false, Bool.false_eq_true, if_false, if_pos size,
      Int.natAbs_of_nonneg (Int.not_lt.mp negative)]

/-- An integer that 64 bits express is read as one, and nothing of what follows. -/
theorem readNumber_signed {number : Int} (least : -(Decimal.twoTo 63 : Int) ≤ number)
    (greatest : number < Decimal.twoTo 64) {rest : List Char} (stops : Stops rest) :
    readNumber (Decimal.signed number ++ rest) = some (integer number, rest) := by
  have read := wholeNumber?_natAbs least greatest
  unfold readNumber
  split
  next negative body sign =>
    have parts : negative = decide (number < 0) ∧ body = digits number.natAbs ++ rest := by
      by_cases minus : number < 0
      · rw [Decimal.signed, if_pos minus] at sign
        cases sign
        exact ⟨(decide_eq_true minus).symm, rfl⟩
      · rw [Decimal.signed, if_neg minus, List.nil_append] at sign
        split at sign
        next same =>
          have digit := Decimal.isDigit_of_run (Decimal.positional_digits.ne_nil _) (Decimal.isDigit_of_mem_digits _) same
          exact absurd digit (by decide)
        next =>
          cases sign
          exact ⟨(decide_eq_false minus).symm, rfl⟩
    obtain ⟨rfl, rfl⟩ := parts
    simp only [readWhole_digits number.natAbs stops, readFraction_of_stops stops, readExponent_of_stops stops,
      Option.bind_eq_bind, Option.bind_some, Option.isNone_none, Bool.and_self, if_true, Decimal.value_digits, read]
    rfl

/-! ## Values -/

theorem skipBlank_cons {char : Char} (visible : isBlank char = false) (rest : List Char) :
    skipBlank (char :: rest) = char :: rest := by
  simp [skipBlank, visible]

/-- The value is read from its text, with fuel for each of its characters, and nothing of what follows is. -/
def Reads (value : Json) : Prop := ∀ fuel rest, value.write.length < fuel → Stops rest →
  readValue fuel (value.write ++ rest) = some (value, rest)

/-- One unit of the fuel is spent on the first character. -/
theorem exists_fuel {size fuel : Nat} (enough : size < fuel) : ∃ less, fuel = less + 1 ∧ size ≤ less :=
  ⟨fuel - 1, by omega, by omega⟩

theorem reads_null : Reads null := by
  intro fuel rest enough _
  obtain ⟨less, rfl, _⟩ := exists_fuel enough
  rw [write_null, readValue_null]

theorem reads_boolean (value : Bool) : Reads (boolean value) := by
  intro fuel rest enough _
  obtain ⟨less, rfl, _⟩ := exists_fuel enough
  rw [write_boolean, readValue_boolean]

theorem reads_string (value : String) : Reads (string value) := by
  intro fuel rest enough _
  obtain ⟨less, rfl, _⟩ := exists_fuel enough
  have text : quoted value.toList ++ rest = '"' :: (value.toList.flatMap escape ++ '"' :: rest) := by
    simp [quoted]
  rw [write_string, text, readValue_quote]
  simp only [readQuoted_written, Option.bind_eq_bind, Option.bind_some, String.ofList_toList]
  rfl

/-- What a number starts with is what nothing else starts with. -/
theorem number_head {char : Char} (first : isDigit char = true ∨ char = '-') :
    isBlank char = false ∧ char ≠ ']' ∧
      char ≠ 'n' ∧ char ≠ 't' ∧ char ≠ 'f' ∧ char ≠ '"' ∧ char ≠ '[' ∧ char ≠ '{' := by
  have others {other : Char} (no : isDigit other = false ∧ other ≠ '-') : char ≠ other := by
    rintro rfl
    rcases first with digit | minus
    · exact Bool.false_ne_true (no.1.symm.trans digit)
    · exact no.2 minus
  refine ⟨?_, others (by decide), others (by decide), others (by decide), others (by decide), others (by decide),
    others (by decide), others (by decide)⟩
  simp only [isBlank, Bool.or_eq_false_iff, decide_eq_false_iff_not]
  exact ⟨⟨⟨others (by decide), others (by decide)⟩, others (by decide)⟩, others (by decide)⟩

theorem readValue_number {char : Char} (first : isDigit char = true ∨ char = '-') (less : Nat) (rest : List Char) :
    readValue (less + 1) (char :: rest) = readNumber (char :: rest) := by
  obtain ⟨visible, -, n, t, f, quote, bracket, brace⟩ := number_head first
  rw [readValue, skipBlank_cons visible]
  split
  next same => exact absurd (List.cons.inj same).1 n
  next same => exact absurd (List.cons.inj same).1 t
  next same => exact absurd (List.cons.inj same).1 f
  next same => exact absurd (List.cons.inj same).1 quote
  next same => exact absurd (List.cons.inj same).1 bracket
  next same => exact absurd (List.cons.inj same).1 brace
  next => rfl

theorem signed_head (number : Int) :
    ∃ char more, Decimal.signed number = char :: more ∧ (isDigit char = true ∨ char = '-') := by
  by_cases minus : number < 0
  · exact ⟨'-', digits number.natAbs, by rw [Decimal.signed, if_pos minus]; rfl, .inr rfl⟩
  · obtain ⟨first, more, same⟩ := List.exists_cons_of_ne_nil (Decimal.positional_digits.ne_nil number.natAbs)
    refine ⟨first, more, by rw [Decimal.signed, if_neg minus, same]; rfl, .inl ?_⟩
    exact Decimal.isDigit_of_mem_digits number.natAbs first (same ▸ List.mem_cons_self)

theorem reads_integer {number : Int} (least : -(Decimal.twoTo 63 : Int) ≤ number) (greatest : number < Decimal.twoTo 64) :
    Reads (integer number) := by
  intro fuel rest enough stops
  obtain ⟨less, rfl, _⟩ := exists_fuel enough
  have read := readNumber_signed least greatest stops
  obtain ⟨char, more, written, first⟩ := signed_head number
  rw [write_integer, written, List.cons_append, readValue_number first]
  rwa [written, List.cons_append] at read

/-- The text of a value starts with what is no blank and closes no array. -/
theorem write_head {value : Json} (whole : value.Exact) :
    ∃ char more, value.write = char :: more ∧ isBlank char = false ∧ char ≠ ']' := by
  cases whole with
  | null => exact ⟨_, _, rfl, by decide, by decide⟩
  | boolean value => cases value <;> exact ⟨_, _, rfl, by decide, by decide⟩
  | integer =>
    obtain ⟨char, more, written, first⟩ := signed_head _
    obtain ⟨visible, unclosed, _⟩ := number_head first
    exact ⟨char, more, written, visible, unclosed⟩
  | string value => exact ⟨_, _, rfl, by decide, by decide⟩
  | array => exact ⟨_, _, rfl, by decide, by decide⟩
  | object => exact ⟨_, _, rfl, by decide, by decide⟩

theorem stops_cons {char : Char} (stop : isDigit char = false ∧ char ≠ '.' ∧ char ≠ 'e' ∧ char ≠ 'E')
    (rest : List Char) : Stops (char :: rest) := by
  intro other member
  cases member
  exact stop

/-- Items are read up to their closing bracket, if each of them is read. -/
theorem readItems_write {items : List Json} (present : items ≠ []) (each : ∀ item ∈ items, Reads item) {fuel : Nat}
    (enough : (writeItems items).length + 1 < fuel) (rest : List Char) :
    readItems fuel (writeItems items ++ ']' :: rest) = some (items, rest) := by
  have comma : isBlank ',' = false := by decide
  have bracket : isBlank ']' = false := by decide
  -- Every item takes one unit of fuel besides its own, and the comma behind it makes up for that.
  induction items generalizing fuel with
  | nil => exact absurd rfl present
  | cons item items ih =>
    obtain ⟨less, rfl, left⟩ := exists_fuel enough
    obtain ⟨first, others⟩ := List.forall_mem_cons.mp each
    cases items with
    | nil =>
      have read := first less (']' :: rest) left (stops_cons (by decide) rest)
      rw [writeItems_singleton, readItems, read]
      simp only [Option.bind_eq_bind, Option.bind_some, skipBlank_cons bracket]
      rfl
    | cons next items =>
      have text : writeItems (item :: next :: items) ++ ']' :: rest =
          item.write ++ ',' :: (writeItems (next :: items) ++ ']' :: rest) := by
        simp [writeItems_cons_cons]
      have size : (writeItems (item :: next :: items)).length =
          item.write.length + ((writeItems (next :: items)).length + 1) := by
        simp [writeItems_cons_cons]
      have read := first less (',' :: (writeItems (next :: items) ++ ']' :: rest)) (by omega)
        (stops_cons (by decide) _)
      have further := @ih (List.cons_ne_nil _ _) others less (by omega)
      rw [text, readItems, read]
      simp only [Option.bind_eq_bind, Option.bind_some, skipBlank_cons comma, further]
      rfl

/-- The text of items starts like the first of them. -/
theorem writeItems_head {item : Json} {items : List Json} (whole : item.Exact) (rest : List Char) :
    ∃ char more, writeItems (item :: items) ++ rest = char :: more ∧ isBlank char = false ∧ char ≠ ']' := by
  obtain ⟨char, more, written, visible, opens⟩ := write_head whole
  cases items with
  | nil => exact ⟨char, more ++ rest, by rw [writeItems_singleton, written]; rfl, visible, opens⟩
  | cons next items =>
    exact ⟨char, _, by rw [writeItems_cons_cons, written]; rfl, visible, opens⟩

theorem reads_array {items : List Json} (whole : ∀ item ∈ items, item.Exact) (each : ∀ item ∈ items, Reads item) :
    Reads (array items) := by
  have bracket : isBlank ']' = false := by decide
  intro fuel rest enough _
  obtain ⟨less, rfl, left⟩ := exists_fuel enough
  have text : (array items).write ++ rest = '[' :: (writeItems items ++ ']' :: rest) := by
    simp [write_array]
  have size : (array items).write.length = (writeItems items).length + 2 := by
    simp [write_array]
  rw [text, readValue_bracket]
  cases items with
  | nil => simp only [writeItems_nil, List.nil_append, skipBlank_cons bracket]
  | cons item items =>
    have read : readItems less (writeItems (item :: items) ++ ']' :: rest) = some (item :: items, rest) :=
      readItems_write (List.cons_ne_nil _ _) each (by omega) rest
    obtain ⟨char, more, written, visible, opens⟩ := writeItems_head (whole item List.mem_cons_self) (']' :: rest)
    rw [written] at read
    simp only [written, skipBlank_cons visible]
    split
    next same => exact absurd (List.cons.inj same).1 opens
    next =>
      rw [read]
      rfl

/-- Fields are read up to their closing brace, if each of their values is read. -/
theorem readPairs_write {fields : Fields} (present : fields ≠ []) (each : ∀ field ∈ fields, Reads field.2) {fuel : Nat}
    (enough : (writeFields fields).length + 1 < fuel) (rest : List Char) :
    readPairs fuel (writeFields fields ++ '\x7d' :: rest) = some (fields, rest) := by
  have quote : isBlank '"' = false := by decide
  have colon : isBlank ':' = false := by decide
  have comma : isBlank ',' = false := by decide
  have brace : isBlank '\x7d' = false := by decide
  induction fields generalizing fuel with
  | nil => exact absurd rfl present
  | cons field fields ih =>
    obtain ⟨less, rfl, left⟩ := exists_fuel enough
    obtain ⟨first, others⟩ := List.forall_mem_cons.mp each
    obtain ⟨key, value⟩ := field
    have first : Reads value := first
    have named (rest : List Char) : writeField (key, value) ++ rest =
        '"' :: (key.toList.flatMap escape ++ '"' :: (':' :: (value.write ++ rest))) := by
      simp [writeField_mk, quoted]
    have size : value.write.length < (writeField (key, value)).length := by
      simp [writeField_mk]
      omega
    cases fields with
    | nil =>
      have read := first less ('\x7d' :: rest) (by rw [writeFields_singleton] at left; omega) (stops_cons (by decide) rest)
      rw [writeFields_singleton, named, readPairs, skipBlank_cons quote]
      simp only [readQuoted_written, Option.bind_eq_bind, Option.bind_some, String.ofList_toList, skipBlank_cons colon, read,
        skipBlank_cons brace]
      rfl
    | cons next fields =>
      have text : writeFields ((key, value) :: next :: fields) ++ '\x7d' :: rest =
          writeField (key, value) ++ ',' :: (writeFields (next :: fields) ++ '\x7d' :: rest) := by
        simp [writeFields_cons_cons]
      have sizes : (writeFields ((key, value) :: next :: fields)).length =
          (writeField (key, value)).length + ((writeFields (next :: fields)).length + 1) := by
        simp [writeFields_cons_cons]
      have read := first less (',' :: (writeFields (next :: fields) ++ '\x7d' :: rest)) (by omega)
        (stops_cons (by decide) _)
      have further := @ih (List.cons_ne_nil _ _) others less (by omega)
      rw [text, named, readPairs, skipBlank_cons quote]
      simp only [readQuoted_written, Option.bind_eq_bind, Option.bind_some, String.ofList_toList, skipBlank_cons colon, read,
        skipBlank_cons comma, further]
      rfl

/-- The text of fields starts with the first key. -/
theorem writeFields_head (field : String × Json) (fields : Fields) (rest : List Char) :
    ∃ more, writeFields (field :: fields) ++ rest = '"' :: more := by
  obtain ⟨key, value⟩ := field
  cases fields with
  | nil => exact ⟨_, by rw [writeFields_singleton, writeField_mk]; rfl⟩
  | cons next fields => exact ⟨_, by rw [writeFields_cons_cons, writeField_mk]; rfl⟩

theorem reads_object {fields : Fields} (each : ∀ field ∈ fields, Reads field.2) : Reads (object fields) := by
  have quote : isBlank '"' = false := by decide
  have brace : isBlank '\x7d' = false := by decide
  intro fuel rest enough _
  obtain ⟨less, rfl, left⟩ := exists_fuel enough
  have text : (object fields).write ++ rest = '\x7b' :: (writeFields fields ++ '\x7d' :: rest) := by
    simp [write_object]
  have size : (object fields).write.length = (writeFields fields).length + 2 := by
    simp [write_object]
  rw [text, readValue_brace]
  cases fields with
  | nil => simp only [writeFields_nil, List.nil_append, skipBlank_cons brace]
  | cons field fields =>
    have read : readPairs less (writeFields (field :: fields) ++ '\x7d' :: rest) = some (field :: fields, rest) :=
      readPairs_write (List.cons_ne_nil _ _) each (by omega) rest
    obtain ⟨more, written⟩ := writeFields_head field fields ('\x7d' :: rest)
    rw [written] at read
    simp only [written, skipBlank_cons quote]
    split
    next same => exact absurd (List.cons.inj same).1 (by decide)
    next =>
      rw [read]
      rfl

/-- A value reads back from its text, whatever follows that cannot continue a number. -/
theorem reads {value : Json} (whole : value.Exact) : Reads value := by
  induction whole with
  | null => exact reads_null
  | boolean value => exact reads_boolean value
  | integer least greatest => exact reads_integer least greatest
  | string value => exact reads_string value
  | array whole ih => exact reads_array whole ih
  | object _ ih => exact reads_object ih

theorem stops_nil : Stops [] := by
  intro char member
  cases member

/-- The document that is written of a value is read as that value in canonical form. -/
theorem ofText?_toText {value : Json} (whole : value.Exact) : ofText? value.toText = some value.canonical := by
  have read := reads whole (2 * value.write.length + 2) [] (by omega) stops_nil
  rw [List.append_nil] at read
  simp only [ofText?, toText, String.toList_ofList, read, Option.bind_eq_bind, Option.bind_some]
  rfl

/-! ## Canonical form -/

theorem canonicalItems_eq_map (items : List Json) : canonicalItems items = items.map canonical := by
  induction items with
  | nil => rfl
  | cons item rest ih => rw [canonicalItems, ih, List.map_cons]

theorem canonicalFields_eq_map (fields : Fields) : canonicalFields fields = fields.map canonicalField := by
  induction fields with
  | nil => rfl
  | cons field rest ih => rw [canonicalFields, ih, List.map_cons]

namespace Fields

theorem find?_cons (key : String) (value : Json) (rest : Fields) (sought : String) :
    find? ((key, value) :: rest) sought = if sought = key then some value else find? rest sought := by
  by_cases same : sought = key
  · simp [find?, same]
  · have other : (sought == key) = false := by simpa using same
    simp [find?, List.lookup_cons, other, same]

theorem find?_eq_none {fields : Fields} {key : String} (absent : key ∉ fields.map Prod.fst) : find? fields key = none := by
  induction fields with
  | nil => rfl
  | cons field rest ih =>
    rw [List.map_cons, List.mem_cons, not_or] at absent
    rw [find?_cons, if_neg absent.1, ih absent.2]

/-- A field is found where no other field stands under its key. -/
theorem find?_of_only {fields : Fields} {field : String × Json} (member : field ∈ fields)
    (only : ∀ other ∈ fields, other.1 = field.1 → other = field) : fields.find? field.1 = some field.2 := by
  induction fields with
  | nil => cases member
  | cons first rest ih =>
    rw [find?_cons first.1 first.2 rest field.1]
    by_cases same : field.1 = first.1
    · have own : first = field := only first List.mem_cons_self same.symm
      rw [if_pos same, own]
    · have later : field ∈ rest := (List.mem_cons.mp member).resolve_left fun own => same (own ▸ rfl)
      rw [if_neg same, ih later fun other within => only other (List.mem_cons_of_mem first within)]

/-- Every field of an object under different keys is found. -/
theorem find?_of_mem {fields : Fields} (distinct : (fields.map Prod.fst).Nodup) {field : String × Json}
    (member : field ∈ fields) : fields.find? field.1 = some field.2 := by
  apply find?_of_only member
  intro other within same
  exact List.inj_on_of_nodup_map distinct within member same

/-- The order of fields under different keys does not matter. -/
theorem find?_perm {fields others : Fields} (distinct : (fields.map Prod.fst).Nodup) (same : fields.Perm others)
    (key : String) : fields.find? key = others.find? key := by
  have alike : (fields.map Prod.fst).Perm (others.map Prod.fst) := same.map Prod.fst
  by_cases known : key ∈ fields.map Prod.fst
  · obtain ⟨field, member, rfl⟩ := List.mem_map.mp known
    rw [find?_of_mem distinct member, find?_of_mem (alike.nodup_iff.mp distinct) (same.mem_iff.mp member)]
  · rw [find?_eq_none known, find?_eq_none fun there => known (alike.mem_iff.mpr there)]

/-- An insertion is seen under its own key and nowhere else, whether the fields are in order or not. -/
theorem find?_insert (key : String) (value : Json) (fields : Fields) (sought : String) :
    find? (insert key value fields) sought = if sought = key then some value else find? fields sought := by
  induction fields with
  | nil => rw [insert, find?_cons]
  | cons field rest ih =>
    obtain ⟨other, held⟩ := field
    rw [insert]
    split
    next => rw [find?_cons]
    next =>
    split
    next same =>
      rw [find?_cons, find?_cons, same]
      split <;> rfl
    next different =>
      rw [find?_cons, find?_cons, ih]
      by_cases own : sought = key
      · have foreign : ¬ sought = other := own ▸ different
        rw [if_neg foreign, if_pos own, if_pos own]
      · rw [if_neg own, if_neg own]

theorem find?_append (front rest : Fields) (key : String) :
    find? (front ++ rest) key = (find? front key).or (find? rest key) := by
  induction front with
  | nil => rfl
  | cons field front ih =>
    rw [List.cons_append, find?_cons field.1 field.2, find?_cons field.1 field.2, ih]
    split <;> rfl

/-- What is put in order is seen beside what was there, and of two fields under one key it is the later that is seen. -/
theorem find?_foldl_insert (pairs fields : Fields) (key : String) :
    find? (pairs.foldl (fun fields pair => insert pair.1 pair.2 fields) fields) key =
      (find? pairs.reverse key).or (find? fields key) := by
  induction pairs generalizing fields with
  | nil => rfl
  | cons pair rest ih =>
    have own : find? (insert pair.1 pair.2 fields) key = (find? [pair] key).or (find? fields key) := by
      rw [find?_insert, find?_cons pair.1 pair.2]
      split <;> rfl
    rw [List.foldl_cons, ih, own, List.reverse_cons, find?_append, Option.or_assoc]

theorem find?_ofPairs_reverse (pairs : Fields) (key : String) : find? (ofPairs pairs) key = find? pairs.reverse key := by
  rw [ofPairs, find?_foldl_insert, @find?_eq_none [] key (by simp), Option.or_none]

/-- Putting fields under different keys in order changes nothing that is looked up. -/
theorem find?_ofPairs {pairs : Fields} (distinct : (pairs.map Prod.fst).Nodup) (key : String) :
    find? (ofPairs pairs) key = find? pairs key := by
  rw [find?_ofPairs_reverse]
  exact (find?_perm distinct pairs.reverse_perm.symm key).symm

theorem insert_perm {key : String} {fields : Fields} (absent : key ∉ fields.map Prod.fst) (value : Json) :
    (insert key value fields).Perm ((key, value) :: fields) := by
  induction fields with
  | nil => exact .refl _
  | cons field rest ih =>
    obtain ⟨other, held⟩ := field
    rw [List.map_cons, List.mem_cons, not_or] at absent
    rw [insert]
    split
    next => exact .refl _
    next =>
    split
    next same => exact absurd same absent.1
    next => exact ((ih absent.2).cons _).trans (.swap _ _ _)

theorem foldl_insert_perm {pairs fields : Fields} (distinct : ((pairs ++ fields).map Prod.fst).Nodup) :
    (pairs.foldl (fun fields pair => insert pair.1 pair.2 fields) fields).Perm (pairs ++ fields) := by
  induction pairs generalizing fields with
  | nil => exact .refl _
  | cons pair rest ih =>
    have moved : (rest ++ pair :: fields).Perm (pair :: rest ++ fields) := List.perm_middle
    rw [List.cons_append, List.map_cons, List.nodup_cons, List.map_append, List.mem_append, not_or] at distinct
    have placed : (rest ++ insert pair.1 pair.2 fields).Perm (pair :: rest ++ fields) :=
      ((insert_perm distinct.1.2 pair.2).append_left rest).trans moved
    have still : ((rest ++ insert pair.1 pair.2 fields).map Prod.fst).Nodup := by
      rw [(placed.map Prod.fst).nodup_iff, List.cons_append, List.map_cons, List.nodup_cons, List.map_append,
        List.mem_append, not_or]
      exact distinct
    exact (ih still).trans placed

/-- Putting fields under different keys in order neither loses nor adds any. -/
theorem ofPairs_perm {pairs : Fields} (distinct : (pairs.map Prod.fst).Nodup) : (ofPairs pairs).Perm pairs := by
  have perm := @foldl_insert_perm pairs [] (by rwa [List.append_nil])
  rwa [List.append_nil] at perm

end Fields

end Discovery.Json
