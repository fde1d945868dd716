import Discovery.Decimal.Binary64
import Discovery.Decimal.Digits
import Discovery.Text.Quoted
/-!
# Decoding errors

Why a document does not describe the value it is meant to. The same causes arise for JSON and for TOML
documents; only the text of a floating point number differs between the two, so the message takes it as
an argument.
-/
namespace Discovery

open Decimal (Binary64)

/-- What a decoder met. -/
inductive Found where
  | null
  | boolean (value : Bool)
  | integer (value : Int)
  | float (value : Binary64)
  | text (value : String)
  | sequence
  | map
  deriving DecidableEq, Repr

inductive DecodeError where
  | wrongType (found : Found) (expected : String)
  | wrongValue (found : Found) (expected : String)
  | wrongLength (length : Nat) (expected : String)
  | unknownVariant (name : String) (known : List String)
  | unknownField (name : String) (known : List String)
  | missingField (name : String)
  | duplicateField (name : String)
  | malformed (reason : String)
  deriving DecidableEq, Repr

def ticked (text : String) : String := "`" ++ text ++ "`"

def Found.describe (floatText : Binary64 → List Char) : Found → String
  | null => "null"
  | boolean true => "boolean " ++ ticked "true"
  | boolean false => "boolean " ++ ticked "false"
  | integer value => "integer " ++ ticked (String.ofList (Decimal.signed value))
  | float value => "floating point " ++ ticked (String.ofList (floatText value))
  | text value => "string " ++ Text.quoted value
  | sequence => "sequence"
  | map => "map"

/-- The accepted names, as a message lists them. -/
def alternatives : List String → String
  | [] => ""
  | [only] => ticked only
  | [first, second] => ticked first ++ " or " ++ ticked second
  | names => "one of " ++ String.intercalate ", " (names.map ticked)

def DecodeError.message (floatText : Binary64 → List Char) : DecodeError → String
  | wrongType found expected => "invalid type: " ++ found.describe floatText ++ ", expected " ++ expected
  | wrongValue found expected => "invalid value: " ++ found.describe floatText ++ ", expected " ++ expected
  | wrongLength length expected =>
    "invalid length " ++ String.ofList (Decimal.digits length) ++ ", expected " ++ expected
  | unknownVariant name known => "unknown variant " ++ ticked name ++ ", expected " ++ alternatives known
  | unknownField name known => "unknown field " ++ ticked name ++ ", expected " ++ alternatives known
  | missingField name => "missing field " ++ ticked name
  | duplicateField name => "duplicate field " ++ ticked name
  | malformed reason => reason

/-- A value that has to be present. -/
def require {α : Type} (name : String) : Option α → Except DecodeError α
  | some value => .ok value
  | none => .error (.missingField name)

end Discovery
