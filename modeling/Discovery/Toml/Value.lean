import Discovery.Decimal.Shortest
import Discovery.Json.Value
import Discovery.Toml.DateTime
/-!
# TOML values

The values of a TOML document. A table lists its entries in the order of the document.
-/
namespace Discovery.Toml

open Decimal (Binary64)

inductive Value where
  | text (value : String)
  | integer (value : Int)
  | float (value : Binary64)
  | boolean (value : Bool)
  | moment (value : DateTime)
  | array (items : List Value)
  | table (entries : List (String × Value))
  deriving Repr, Inhabited

abbrev Table := List (String × Value)

/-- The key under which a date or time stands in JSON. -/
def momentKey : String := "$__toml_private_datetime"

/-- A floating point number as messages write it: all digits of its integer part, and a fraction. A tie goes to the
greater number before its sign. -/
def floatText : Binary64 → List Char
  | .nan => "NaN".toList
  | .infinite negative => if negative then "-inf".toList else "inf".toList
  | .finite negative mantissa exponent =>
    let unsigned := if mantissa = 0 then "0.0".toList else (Binary64.shortest .upward mantissa exponent).positional
    if negative then '-' :: unsigned else unsigned

mutual

/-- A value in JSON. JSON has no infinities and no NaN, so those become null. -/
def Value.toJson : Value → Json
  | .text value => .string value
  | .integer value => .integer value
  | .float (.finite negative mantissa exponent) => .float (.finite negative mantissa exponent)
  | .float _ => .null
  | .boolean value => .boolean value
  | .moment value => .object [(momentKey, .string (String.ofList value.write))]
  | .array items => .array (itemsToJson items)
  | .table entries => Json.ofPairs (entriesToJson entries)

def itemsToJson : List Value → List Json
  | [] => []
  | item :: rest => item.toJson :: itemsToJson rest

def entriesToJson : List (String × Value) → List (String × Json)
  | [] => []
  | (key, value) :: rest => (key, value.toJson) :: entriesToJson rest

end

/-- A table as a JSON object. -/
def tableToJson (table : Table) : Json := (Value.table table).toJson

end Discovery.Toml
