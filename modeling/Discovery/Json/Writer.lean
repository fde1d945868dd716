import Discovery.Decimal.Shortest
import Discovery.Json.Value
/-!
# JSON text

The compact text of a value: no blanks, object fields in the order they are held. Inside a string the
quote, the backslash and every control character below U+0020 are escaped and all else stands for itself,
so a written string holds no control character and no quote before its end.
-/
namespace Discovery.Json

open Decimal (Binary64)

/-- A floating point number: positional while the leading exponent is between -5 and 15, else scientific. A tie
goes to the even digit. -/
def floatText (value : Binary64) : List Char :=
  match value with
  | .nan => "NaN".toList
  | .infinite negative => if negative then "-inf".toList else "inf".toList
  | .finite negative mantissa exponent =>
    let decimal := Binary64.shortest .toEven mantissa exponent
    let unsigned :=
      if mantissa = 0 then "0.0".toList
      else if -5 ≤ decimal.leading ∧ decimal.leading ≤ 15 then decimal.positional
      else decimal.scientific
    if negative then '-' :: unsigned else unsigned

/-- How one character stands inside a string. -/
def escape (char : Char) : List Char :=
  if char = '"' then ['\\', '"']
  else if char = '\\' then ['\\', '\\']
  else if char = '\n' then ['\\', 'n']
  else if char = '\r' then ['\\', 'r']
  else if char = '\t' then ['\\', 't']
  else if char = '\x08' then ['\\', 'b']
  else if char = '\x0c' then ['\\', 'f']
  else if char.toNat < 32 then '\\' :: 'u' :: Decimal.hexPadded 4 char.toNat
  else [char]

/-- A string between its quotes. -/
def quoted (text : List Char) : List Char := '"' :: text.flatMap escape ++ ['"']

mutual

/-- The text of a value. -/
def write : Json → List Char
  | null => "null".toList
  | boolean true => "true".toList
  | boolean false => "false".toList
  | integer value => Decimal.signed value
  | float value =>
    match value with
    | .finite .. => floatText value
    | _ => "null".toList
  | string value => quoted value.toList
  | array items => '[' :: writeItems items ++ [']']
  | object fields => '{' :: writeFields fields ++ ['}']

/-- Items with commas between them. -/
def writeItems : List Json → List Char
  | [] => []
  | [item] => write item
  | item :: rest => write item ++ ',' :: writeItems rest

/-- Fields with commas between them. -/
def writeFields : List (String × Json) → List Char
  | [] => []
  | [field] => writeField field
  | field :: rest => writeField field ++ ',' :: writeFields rest

/-- A key, a colon and the value. -/
def writeField : String × Json → List Char
  | (key, value) => quoted key.toList ++ ':' :: write value

end

/-! What is written of each kind of value. The functions call each other, so that it is better to go by these equations
than to unfold them. -/

theorem write_null : null.write = "null".toList := rfl

theorem write_boolean (value : Bool) : (boolean value).write = (if value then "true" else "false").toList := by
  cases value <;> rfl

theorem write_integer (value : Int) : (integer value).write = Decimal.signed value := rfl

theorem write_string (value : String) : (string value).write = quoted value.toList := rfl

theorem write_array (items : List Json) : (array items).write = '[' :: writeItems items ++ [']'] := rfl

theorem write_object (fields : List (String × Json)) :
    (object fields).write = '\x7b' :: writeFields fields ++ ['\x7d'] := rfl

theorem writeItems_nil : writeItems [] = [] := rfl

theorem writeItems_singleton (item : Json) : writeItems [item] = item.write := rfl

theorem writeItems_cons_cons (item next : Json) (rest : List Json) :
    writeItems (item :: next :: rest) = item.write ++ ',' :: writeItems (next :: rest) := rfl

theorem writeFields_nil : writeFields [] = [] := rfl

theorem writeFields_singleton (field : String × Json) : writeFields [field] = writeField field := rfl

theorem writeFields_cons_cons (field next : String × Json) (rest : List (String × Json)) :
    writeFields (field :: next :: rest) = writeField field ++ ',' :: writeFields (next :: rest) := rfl

theorem writeField_mk (key : String) (value : Json) :
    writeField (key, value) = quoted key.toList ++ ':' :: value.write := rfl

def toText (value : Json) : String := String.ofList value.write

end Discovery.Json
