import Discovery.Toml.Value
/-!
# Tables under construction

A document builds its tables piece by piece, and how a table came to be decides what may still be added to it. A
table is opened by a header of its own, or it is implied by a longer header, or a dotted key makes it. A header
may open an implied table once; a dotted key extends only what no header has opened; values are closed.
-/
namespace Discovery.Toml

inductive Origin where
  | header
  | implied
  | dotted
  deriving DecidableEq, Repr

mutual

inductive Item where
  | value (value : Value)
  | table (body : Section)
  | tables (elements : List Section)

inductive Section where
  | mk (origin : Origin) (entries : List (String × Item))

end

namespace Section

def empty (origin : Origin) : Section := mk origin []

def origin : Section → Origin
  | mk origin _ => origin

def entries : Section → List (String × Item)
  | mk _ entries => entries

def find? (body : Section) (key : String) : Option Item := body.entries.lookup key

/-- Put an item in the place of the one under a key, or behind the others if there is none. -/
def put (body : Section) (key : String) (item : Item) : Section :=
  let held := body.entries
  if held.any (·.1 == key) then
    mk body.origin (held.map fun entry => if entry.1 == key then (key, item) else entry)
  else mk body.origin (held ++ [(key, item)])

def erase (body : Section) (key : String) : Section :=
  mk body.origin (body.entries.filter (·.1 != key))

/-- Change the last of a list. -/
def changeLast (change : Section → Option Section) : List Section → Option (List Section)
  | [] => none
  | [last] => return [← change last]
  | first :: rest => return first :: (← changeLast change rest)

/-- Change the table that a path leads to. Missing tables on the way are made; an array of tables leads on to
its last element. -/
def changeAt (making : Origin) (change : Section → Option Section) : List String → Section → Option Section
  | [], body => change body
  | key :: rest, body =>
    match body.find? key with
    | none => do
      let made ← changeAt making change rest (empty making)
      return body.put key (.table made)
    | some (.value _) => none
    | some (.tables elements) => do
      let elements ← changeLast (changeAt making change rest) elements
      return body.put key (.tables elements)
    | some (.table inner) =>
      if making = .dotted ∧ inner.origin = .header then none
      else do
        let inner ← changeAt making change rest inner
        return body.put key (.table inner)

/-- Add a value under a key that is not taken. -/
def insertNew (key : String) (value : Value) (body : Section) : Option Section :=
  if (body.find? key).isSome then none else some (body.put key (.value value))

/-- Add a value under a path of keys. A path of more than one key may only lead through tables that dotted keys
have made. -/
def insert (path : List String) (key : String) (value : Value) (body : Section) : Option Section :=
  changeAt .dotted
    (fun inner => if !path.isEmpty ∧ inner.origin ≠ .dotted then none else insertNew key value inner) path body

end Section

mutual

def Item.toValue : Item → Value
  | .value value => value
  | .table body => body.toValue
  | .tables elements => .array (elementsToValues elements)

def Section.toValue : Section → Value
  | .mk _ entries => .table (entriesToValues entries)

def elementsToValues : List Section → List Value
  | [] => []
  | element :: rest => element.toValue :: elementsToValues rest

def entriesToValues : List (String × Item) → List (String × Value)
  | [] => []
  | (key, item) :: rest => (key, item.toValue) :: entriesToValues rest

end

/-- The table that has been built. -/
def Section.toTable (body : Section) : Table := entriesToValues body.entries

end Discovery.Toml
