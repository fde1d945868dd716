import Discovery.Decimal.Binary64
/-!
# JSON values

A JSON value with integers and floating point numbers kept apart: `80`, `80.0` and `-0.0` are three
different values. An object is a list of fields, and is written in the order in which they are listed. A
document that is read is put into canonical form: every object has its fields in increasing key order and no
key twice, where the later of two equal keys wins.
-/
namespace Discovery

open Decimal (Binary64)

inductive Json where
  | null
  | boolean (value : Bool)
  | integer (value : Int)
  | float (value : Binary64)
  | string (value : String)
  | array (items : List Json)
  | object (fields : List (String × Json))
  deriving Repr, Inhabited

namespace Json

abbrev Fields := List (String × Json)

namespace Fields

def insert (key : String) (value : Json) : Fields → Fields
  | [] => [(key, value)]
  | (other, held) :: rest =>
    if key < other then (key, value) :: (other, held) :: rest
    else if key = other then (key, value) :: rest
    else (other, held) :: insert key value rest

/-- The fields of a sequence of key and value pairs, in key order. -/
def ofPairs (pairs : List (String × Json)) : Fields :=
  pairs.foldl (fun fields pair => insert pair.1 pair.2 fields) []

def find? (fields : Fields) (key : String) : Option Json := List.lookup key fields

def erase (fields : Fields) (key : String) : Fields :=
  fields.filter (·.1 != key)

end Fields

/-- An object with the given fields in key order. -/
def ofPairs (pairs : List (String × Json)) : Json := object (Fields.ofPairs pairs)

mutual

/-- The value with the fields of all its objects in key order. -/
def canonical : Json → Json
  | array items => array (canonicalItems items)
  | object fields => ofPairs (canonicalFields fields)
  | other => other

def canonicalItems : List Json → List Json
  | [] => []
  | item :: rest => item.canonical :: canonicalItems rest

def canonicalFields : List (String × Json) → List (String × Json)
  | [] => []
  | field :: rest => canonicalField field :: canonicalFields rest

def canonicalField : String × Json → String × Json
  | (key, value) => (key, value.canonical)

end

/-- The value under a key, if this is an object that has it. -/
def field? : Json → String → Option Json
  | object fields, key => Fields.find? fields key
  | _, _ => none

def text? : Json → Option String
  | string value => some value
  | _ => none

end Json

end Discovery
