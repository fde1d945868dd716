import Discovery.Decode
import Discovery.Json.Writer
/-!
# Decoding JSON values

Decoders for the simple types. Each names what it expects, and a value of another kind is reported as what
was found in its place.
-/
namespace Discovery.Json

def found : Json → Found
  | null => .null
  | boolean value => .boolean value
  | integer value => .integer value
  | float value => .float value
  | string value => .text value
  | array _ => .sequence
  | object _ => .map

def message (error : DecodeError) : String := error.message floatText

def wrongType {α : Type} (value : Json) (expected : String) : Except DecodeError α :=
  .error (.wrongType value.found expected)

def decodeText (value : Json) (expected : String) : Except DecodeError String :=
  match value with
  | string text => .ok text
  | other => wrongType other expected

theorem decodeText_eq_ok_iff {value : Json} {expected text : String} :
    value.decodeText expected = .ok text ↔ value = .string text := by
  cases value with
  | string held => simp [decodeText]
  | null | boolean _ | integer _ | float _ | array _ | object _ => simp [decodeText, wrongType]

def decodeBoolean : Json → Except DecodeError Bool
  | boolean value => .ok value
  | other => wrongType other "a boolean"

theorem decodeBoolean_eq_ok_iff {value : Json} {choice : Bool} :
    value.decodeBoolean = .ok choice ↔ value = .boolean choice := by
  cases value with
  | boolean held => simp [decodeBoolean]
  | null | string _ | integer _ | float _ | array _ | object _ => simp [decodeBoolean, wrongType]

/-- A natural number of at most `bits` bits. A floating point number is no integer, whatever its value. -/
def decodeNatural (bits : Nat) (value : Json) : Except DecodeError Nat :=
  let expected := "u" ++ String.ofList (Decimal.digits bits)
  match value with
  | integer number =>
    if 0 ≤ number ∧ number < Decimal.twoTo bits then .ok number.toNat
    else .error (.wrongValue (.integer number) expected)
  | other => wrongType other expected

theorem decodeNatural_eq_ok_iff {value : Json} {bits number : Nat} :
    value.decodeNatural bits = .ok number ↔ value = .integer number ∧ number < Decimal.twoTo bits := by
  cases value with
  | integer held =>
    by_cases fits : 0 ≤ held ∧ held < Decimal.twoTo bits
    · simp only [decodeNatural, if_pos fits, Except.ok.injEq, integer.injEq]
      omega
    · simp only [decodeNatural, if_neg fits, reduceCtorEq, integer.injEq, false_iff]
      omega
  | null | string _ | boolean _ | float _ | array _ | object _ => simp [decodeNatural, wrongType]

def decodePort (value : Json) : Except DecodeError UInt16 :=
  return UInt16.ofNat (← decodeNatural 16 value)

/-- Decode the value under a key if the key is there. -/
def Fields.decode? {α : Type} (fields : Fields) (key : String) (decode : Json → Except DecodeError α) :
    Except DecodeError (Option α) :=
  match fields.find? key with
  | some value => return some (← decode value)
  | none => return none

end Discovery.Json
