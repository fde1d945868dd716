import Discovery.Toml.Number
import Discovery.Toml.Section
import Discovery.Toml.Text
/-!
# Reading TOML

A document is a sequence of statements, one a line: a key with its value, the header of a table, or the header
of one more table of an array. Keys with values go to the table of the last header. That table is taken out of
the document while it is being filled and put back behind the others when the next header comes.
-/
namespace Discovery.Toml

/-! ## Values -/

/-- Items up to a closing bracket, with commas between them and perhaps one behind the last. -/
def readItems (item : List Char → Option (Value × List Char)) :
    Nat → List Char → Option (List Value × List Char)
  | 0, _ => none
  | fuel + 1, text =>
    match skipSpace text.length text with
    | ']' :: rest => some ([], rest)
    | text => do
      let (value, rest) ← item text
      match skipSpace rest.length rest with
      | ']' :: rest => return ([value], rest)
      | ',' :: rest =>
        let (values, rest) ← readItems item fuel rest
        return (value :: values, rest)
      | _ => none

def readEntry (item : List Char → Option (Value × List Char)) (text : List Char) :
    Option ((List String × String × Value) × List Char) := do
  let (path, key, rest) ← readPath text
  match rest with
  | '=' :: rest =>
    let (value, rest) ← item (skipBlank rest)
    return ((path, key, value), rest)
  | _ => none

/-- Entries up to a closing brace, with commas between them, added to a table. -/
def readEntries (item : List Char → Option (Value × List Char)) :
    Nat → Section → List Char → Option (Section × List Char)
  | 0, _, _ => none
  | fuel + 1, body, text => do
    let ((path, key, value), rest) ← readEntry item text
    let body ← body.insert path key value
    match skipBlank rest with
    | '\x7d' :: rest => return (body, rest)
    | ',' :: rest => readEntries item fuel body rest
    | _ => none

/-- An inline table, after its opening brace. -/
def readInline (item : List Char → Option (Value × List Char)) (text : List Char) :
    Option (Value × List Char) :=
  match skipBlank text with
  | '\x7d' :: rest => some (.table [], rest)
  | _ => do
    let (body, rest) ← readEntries item text.length (.empty .header) text
    return (body.toValue, rest)

/-- A value in which arrays and inline tables are nested at most `depth` deep. -/
def readValue : (depth : Nat) → List Char → Option (Value × List Char)
  | depth, text =>
    match text with
    | '"' :: _ | '\'' :: _ => do
      let (chars, rest) ← readString text
      return (.text (String.ofList chars), rest)
    | 't' :: 'r' :: 'u' :: 'e' :: rest => some (.boolean true, rest)
    | 'f' :: 'a' :: 'l' :: 's' :: 'e' :: rest => some (.boolean false, rest)
    | '[' :: rest =>
      match depth with
      | 0 => none
      | depth + 1 => do
        let (items, rest) ← readItems (readValue depth) (rest.length + 1) rest
        return (.array items, rest)
    | '\x7b' :: rest =>
      match depth with
      | 0 => none
      | depth + 1 => readInline (readValue depth) rest
    | _ => readNumber text

/-! ## Statements -/

/-- One statement: a value under a path, or a header. -/
inductive Statement where
  | entry (path : List String) (key : String) (value : Value)
  | header (path : List String) (key : String)
  | element (path : List String) (key : String)

/-- The statement that starts here, up to the end of its line. -/
def readStatement (text : List Char) : Option (Statement × List Char) :=
  match text with
  | '[' :: '[' :: rest => do
    let (path, key, rest) ← readPath rest
    match rest with
    | ']' :: ']' :: rest => return (.element path key, ← readTrailing rest)
    | _ => none
  | '[' :: rest => do
    let (path, key, rest) ← readPath rest
    match rest with
    | ']' :: rest => return (.header path key, ← readTrailing rest)
    | _ => none
  | _ => do
    let ((path, key, value), rest) ← readEntry (readValue (nestingLimit - 1)) text
    return (.entry path key value, ← readTrailing rest)

def readStatements : Nat → List Char → Option (List Statement)
  | 0, _ => none
  | fuel + 1, text =>
    match skipBlank text with
    | [] => some []
    | '#' :: rest => do readStatements fuel (← readLineEnd (skipComment ('#' :: rest)))
    | '\n' :: rest => readStatements fuel rest
    | '\r' :: '\n' :: rest => readStatements fuel rest
    | text => do
      let (statement, rest) ← readStatement text
      return statement :: (← readStatements fuel rest)

/-! ## Documents -/

/-- Where the table under construction belongs. -/
inductive Place where
  | root
  | table (path : List String) (key : String)
  | element (path : List String) (key : String)

/-- A document of which some statements have been taken. -/
structure Draft where
  /-- The document without the table under construction. -/
  root : Section
  current : Section
  place : Place

namespace Draft

def empty : Draft := ⟨.empty .header, .empty .header, .root⟩

/-- Put the table under construction back into the document. -/
def settle (draft : Draft) : Option Section :=
  match draft.place with
  | .root => some draft.current
  | .table path key =>
    draft.root.changeAt .implied (fun parent => some (parent.put key (.table draft.current))) path
  | .element path key =>
    draft.root.changeAt .implied
      (fun parent => match parent.find? key with
        | some (.tables elements) => some (parent.put key (.tables (elements ++ [draft.current])))
        | some _ => none
        | none => some (parent.put key (.tables [draft.current]))) path

/-- What may be opened as a table under a key: nothing yet, or a table implied by longer headers. -/
def opened? (parent : Section) (key : String) : Option Section :=
  match parent.find? key with
  | none => some (.empty .header)
  | some (.table (.mk .implied entries)) => some (.mk .header entries)
  | some _ => none

/-- The table that a path leads to, as it is or would be made. -/
def lookAt (root : Section) : List String → Option Section
  | [] => some root
  | key :: rest =>
    match root.find? key with
    | none => lookAt (.empty .implied) rest
    | some (.value _) => none
    | some (.tables elements) => do lookAt (← elements.getLast?) rest
    | some (.table inner) => lookAt inner rest

def take (draft : Draft) : Statement → Option Draft
  | .entry path key value => return { draft with current := ← draft.current.insert path key value }
  | .header path key => do
    let root ← draft.settle
    let current ← opened? (← lookAt root path) key
    let root ← root.changeAt .implied (fun parent => some (parent.erase key)) path
    return ⟨root, current, .table path key⟩
  | .element path key => do
    let root ← draft.settle
    match (← lookAt root path).find? key with
    | none | some (.tables _) => return ⟨root, .empty .header, .element path key⟩
    | some _ => none

end Draft

/-- The table that a document describes, if it is well-formed. A byte order mark may stand before it. -/
def ofText? (text : String) : Option Table := do
  let chars := match text.toList with
    | '\uFEFF' :: rest => rest
    | chars => chars
  let statements ← readStatements (chars.length + 1) chars
  let draft ← statements.foldlM Draft.take .empty
  return (← draft.settle).toTable

end Discovery.Toml
