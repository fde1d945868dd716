import Discovery.Category
import Discovery.Json.Decode
/-!
# Categories in JSON

A category is written as its name. It is also read from an object with that name as its only key, whose
value has to be null. The name is checked before the value.
-/
namespace Discovery.Category

def toJson (category : Category) : Json := .string category.name

def decodeName (name : String) : Except DecodeError Category :=
  match ofName? name with
  | some category => .ok category
  | none => .error (.unknownVariant name (all.map Category.name))

def ofJson : Json → Except DecodeError Category
  | .string name => decodeName name
  | .object [(name, content)] => do
    let category ← decodeName name
    match content with
    | .null => return category
    | other => throw (.wrongType other.found "unit")
  | .object _ => .error (.wrongValue .map "map with a single key")
  | other => .error (.wrongType other.found "string or map")

theorem ofJson_toJson (category : Category) : ofJson category.toJson = .ok category := by
  simp [toJson, ofJson, decodeName, ofName?_name]

end Discovery.Category
