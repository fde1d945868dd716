import Discovery.Decode
import Discovery.Toml.Value
/-!
# Decoding TOML values

Decoders for the simple types, for sections and for tables of any content.

A table whose first key is the one under which dates stand in JSON is a date or time itself: the value of that key
is its text, and whatever else the table holds is ignored. Where a value of any kind is asked for, all such tables
are resolved, to whatever depth.
-/
namespace Discovery.Toml

namespace Value

/-- A date or time shows itself as a map. -/
def found : Value → Found
  | text value => .text value
  | integer value => .integer value
  | float value => .float value
  | boolean value => .boolean value
  | moment _ => .map
  | array _ => .sequence
  | table _ => .map

def wrongType {α : Type} (value : Value) (expected : String) : Except DecodeError α :=
  .error (.wrongType value.found expected)

def decodeText : Value → Except DecodeError String
  | text value => .ok value
  | other => other.wrongType "a string"

def decodeBoolean : Value → Except DecodeError Bool
  | boolean value => .ok value
  | other => other.wrongType "a boolean"

/-- A natural number of at most `bits` bits. -/
def decodeNatural (bits : Nat) (value : Value) : Except DecodeError Nat :=
  let expected := "u" ++ String.ofList (Decimal.digits bits)
  match value with
  | integer number =>
    if 0 ≤ number ∧ number < Decimal.twoTo bits then .ok number.toNat
    else .error (.wrongValue (.integer number) expected)
  | other => other.wrongType expected

theorem decodeNatural_eq_ok_iff {value : Value} {bits number : Nat} :
    value.decodeNatural bits = .ok number ↔ value = .integer number ∧ number < Decimal.twoTo bits := by
  cases value with
  | integer held =>
    by_cases fits : 0 ≤ held ∧ held < Decimal.twoTo bits
    · simp only [decodeNatural, if_pos fits, Except.ok.injEq, integer.injEq]
      omega
    · simp only [decodeNatural, if_neg fits, reduceCtorEq, integer.injEq, false_iff]
      omega
  | text _ | float _ | boolean _ | moment _ | array _ | table _ => simp [decodeNatural, wrongType]

/-- The date or time that a text holds. -/
def decodeMoment : Value → Except DecodeError DateTime
  | text value =>
    match DateTime.ofChars? value.toList with
    | some day => .ok day
    | none => .error (.malformed "failed to parse datetime")
  | other => other.wrongType "string containing a datetime"

/-- The entries of a section. An array gives the values of the section's fields in order; surplus values are
ignored. A date or time is a map without any of the fields. -/
def sectionEntries (name : String) (fields : List String) : Value → Except DecodeError Table
  | table entries => .ok entries
  | array items => .ok (fields.zip items)
  | .moment _ => .ok []
  | other => other.wrongType ("struct " ++ name)

/-- The first entry of a table, if it makes the table a date or time. -/
def marked? : Table → Option Value
  | (key, value) :: _ => if key = momentKey then some value else none
  | [] => none

mutual

/-- The value with dates and times in the place of the tables that stand for them. -/
def resolve : Value → Except DecodeError Value
  | array items => return array (← resolveItems items)
  | table entries =>
    match marked? entries with
    | some value => return .moment (← value.decodeMoment)
    | none => return table (← resolveEntries entries)
  | other => .ok other

def resolveItems : List Value → Except DecodeError (List Value)
  | [] => .ok []
  | item :: rest => return (← item.resolve) :: (← resolveItems rest)

def resolveEntries : List (String × Value) → Except DecodeError (List (String × Value))
  | [] => .ok []
  | (key, value) :: rest => return (key, ← value.resolve) :: (← resolveEntries rest)

end

/-- The entries of a table of any content. The table itself is not taken for a date or time. -/
def tableEntries : Value → Except DecodeError Table
  | table entries => resolveEntries entries
  | .moment value => .ok [(momentKey, text (String.ofList value.write))]
  | other => other.wrongType "a map"

end Value

/-- All tables of a document that stand for dates or times hold one. -/
def sound (document : Table) : Bool :=
  match Value.resolveEntries document with
  | .ok _ => true
  | .error _ => false

end Discovery.Toml
