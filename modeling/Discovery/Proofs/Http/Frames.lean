import Discovery.Http.EventFrame
import Discovery.Proofs.Record.RoundTrip
/-!
# Event frames read by a client

What a client of an event stream does with the frames of changes: it takes the text apart into lines, collects the
fields of an event until a blank line, and decodes the data as JSON. However the line ends are written that it knows, it
finds one event in a frame, because the text of a change has no line end in it, and from the data the change comes back.
-/
namespace Discovery

/-! ## The client's side -/

namespace Change

/-- The change that a JSON value describes. -/
def ofJson? (value : Json) : Option Change :=
  match value.field? "category", value.field? "services" with
  | some category, some (.array services) => do
    let category ← (Category.ofJson category).toOption
    let services ← services.mapM fun service => (Record.ofJson service).toOption
    return ⟨category, services⟩
  | _, _ => none

end Change

namespace Http

/-- The lines of a text, each ended by a line feed, a carriage return or both, and what stands behind the last one. -/
def lines : List Char → List (List Char) × List Char
  | [] => ([], [])
  | '\r' :: '\n' :: rest => ([] :: (lines rest).1, (lines rest).2)
  | char :: rest =>
    if char = '\n' ∨ char = '\r' then ([] :: (lines rest).1, (lines rest).2)
    else
      match lines rest with
      | ([], left) => ([], char :: left)
      | (line :: more, left) => ((char :: line) :: more, left)

/-- An event as a client collects it: its name and the lines of its data. -/
structure Event where
  name : List Char
  data : List (List Char)
  deriving DecidableEq, Repr

namespace Event

def empty : Event := ⟨[], []⟩

/-- The name and the value of a field. One blank behind the colon does not belong to the value. -/
def splitField (line : List Char) : List Char × List Char :=
  match line.span (· ≠ ':') with
  | (name, ':' :: ' ' :: value) => (name, value)
  | (name, ':' :: value) => (name, value)
  | (name, _) => (name, [])

/-- Take a line into an event. Unknown fields and comments are passed over. -/
def withLine (event : Event) (line : List Char) : Event :=
  let (name, value) := splitField line
  if name = "event".toList then { event with name := value }
  else if name = "data".toList then { event with data := event.data ++ [value] }
  else event

/-- A blank line ends an event. One without data is not an event. -/
def collect : Event → List (List Char) → List Event
  | _, [] => []
  | event, [] :: rest => if event.data.isEmpty then collect empty rest else event :: collect empty rest
  | event, line :: rest => collect (event.withLine line) rest

/-- The change that an event tells of. -/
def change? (event : Event) : Option Change :=
  if event.name = "category_changed".toList then
    (Json.ofText? (String.ofList (['\n'].intercalate event.data))).bind Change.ofJson?
  else none

end Event

/-- The events of a stream. -/
def events (text : List Char) : List Event := Event.empty.collect (lines text).1

end Http

/-! ## Lines -/

namespace Http

/-- No character of the text ends a line. -/
def Unbroken (text : List Char) : Prop := ∀ char ∈ text, char ≠ '\n' ∧ char ≠ '\r'

theorem unbroken_of_printable {text : List Char} (printable : Json.Printable text) : Unbroken text := by
  intro char member
  have visible := printable char member
  constructor
  · rintro rfl
    exact absurd visible (by decide)
  · rintro rfl
    exact absurd visible (by decide)

/-- A line without line ends in it is the first line. -/
theorem lines_append {line : List Char} (unbroken : Unbroken line) (rest : List Char) :
    lines (line ++ '\n' :: rest) = (line :: (lines rest).1, (lines rest).2) := by
  induction line with
  | nil =>
    rw [List.nil_append, lines, if_pos (.inl rfl)]
    simp
  | cons char line ih =>
    obtain ⟨⟨feed, carriage⟩, others⟩ := List.forall_mem_cons.mp unbroken
    have neither : ¬ (char = '\n' ∨ char = '\r') := not_or.mpr ⟨feed, carriage⟩
    rw [List.cons_append, lines, if_neg neither, ih others]
    -- No line end of two characters starts here either.
    intro _ same
    exact absurd same carriage

/-! ## Frames -/

end Http

theorem Change.exact_toJson (change : Change) : change.toJson.Exact := by
  refine .object fun field member => ?_
  simp only [List.mem_cons, List.not_mem_nil, or_false] at member
  rcases member with rfl | rfl
  · exact .string _
  · refine .array fun item listed => ?_
    obtain ⟨record, _, rfl⟩ := List.mem_map.mp listed
    exact record.exact_toJson

/-- The records of a list come back from its canonical form, one by one. -/
theorem Record.mapM_ofJson_canonical (records : List Record) :
    (Json.canonicalItems (records.map toJson)).mapM (fun item => (ofJson item).toOption) = some records := by
  induction records with
  | nil => rfl
  | cons record rest ih =>
    rw [List.map_cons, Json.canonicalItems, List.mapM_cons, ofJson_canonical, ih]
    rfl

theorem Change.ofJson?_canonical (change : Change) : ofJson? change.toJson.canonical = some change := by
  let pairs : Json.Fields := [("category", change.category.toJson),
    ("services", .array (Json.canonicalItems (change.services.map Record.toJson)))]
  have canonical : change.toJson.canonical = .object (Json.Fields.ofPairs pairs) := rfl
  have distinct : (pairs.map Prod.fst).Nodup := by
    have keys : pairs.map Prod.fst = ["category", "services"] := rfl
    rw [keys]
    decide
  have found {key : String} {value : Json} (member : (key, value) ∈ pairs) :
      change.toJson.canonical.field? key = some value := by
    rw [canonical, Json.field?, Json.Fields.find?_ofPairs distinct]
    exact Json.Fields.find?_of_mem distinct member
  have category := found (List.mem_cons_self : ("category", _) ∈ pairs)
  have services := found (List.mem_cons_of_mem _ List.mem_cons_self : ("services", _) ∈ pairs)
  have own : (Category.ofJson change.category.toJson).toOption = some change.category := by
    rw [Category.ofJson_toJson]
    rfl
  simp only [ofJson?, category, services, own, Record.mapM_ofJson_canonical, Option.bind_eq_bind, Option.bind_some]
  rfl

theorem Change.ofText_write (change : Change) :
    (Json.ofText? (String.ofList change.toJson.write)).bind Change.ofJson? = some change := by
  rw [← Json.toText, Json.ofText?_toText change.exact_toJson, Option.bind_some, Change.ofJson?_canonical]

namespace Http

theorem unbroken_write (change : Change) : Unbroken change.toJson.write :=
  unbroken_of_printable (Json.printable_write change.exact_toJson)

/-- A frame is three lines, whatever follows it. -/
theorem lines_frame {data : List Char} (unbroken : Unbroken data) (rest : List Char) :
    lines ("event: category_changed\ndata: ".toList ++ data ++ ['\n', '\n'] ++ rest) =
      ("event: category_changed".toList :: ("data: ".toList ++ data) :: [] :: (lines rest).1, (lines rest).2) := by
  have broken : "event: category_changed\ndata: ".toList = "event: category_changed".toList ++ '\n' :: "data: ".toList := by
    simp
  have text : "event: category_changed\ndata: ".toList ++ data ++ ['\n', '\n'] ++ rest =
      "event: category_changed".toList ++ '\n' :: (("data: ".toList ++ data) ++ '\n' :: ([] ++ '\n' :: rest)) := by
    rw [broken]
    simp only [List.append_assoc, List.cons_append, List.nil_append]
  have named : Unbroken "event: category_changed".toList := by
    simp [Unbroken]
  have labelled : Unbroken ("data: ".toList ++ data) := List.forall_mem_append.mpr ⟨by simp, unbroken⟩
  have blank : Unbroken [] := List.forall_mem_nil _
  rw [text, lines_append named, lines_append labelled, lines_append blank]

theorem lines_eventFrame (change : Change) (rest : List Char) : lines (eventFrame change ++ rest) =
    ("event: category_changed".toList :: ("data: ".toList ++ change.toJson.write) :: [] :: (lines rest).1,
      (lines rest).2) := lines_frame (unbroken_write change) rest

namespace Event

/-- The event of a change whose JSON text is this. -/
def ofData (data : List Char) : Event := ⟨"category_changed".toList, [data]⟩

theorem collect_line {line : List Char} (present : line ≠ []) (event : Event) (rest : List (List Char)) :
    event.collect (line :: rest) = (event.withLine line).collect rest := by
  obtain ⟨first, more, rfl⟩ := List.exists_cons_of_ne_nil present
  rfl

theorem collect_frame (data : List Char) (rest : List (List Char)) :
    empty.collect ("event: category_changed".toList :: ("data: ".toList ++ data) :: [] :: rest) =
      ofData data :: empty.collect rest := by
  have first : splitField "event: category_changed".toList = ("event".toList, "category_changed".toList) := by
    simp [splitField, List.span, List.span.loop]
  have second : splitField ("data: ".toList ++ data) = ("data".toList, data) := by
    simp [splitField, List.span, List.span.loop]
  have other : ¬ "data".toList = "event".toList := by simp
  have named : empty.withLine "event: category_changed".toList = ⟨"category_changed".toList, []⟩ := by
    simp only [withLine, first, if_true, empty]
  have filled : withLine ⟨"category_changed".toList, []⟩ ("data: ".toList ++ data) = ofData data := by
    unfold withLine
    rw [second]
    dsimp only
    rw [if_neg other, if_pos rfl]
    rfl
  rw [collect_line (by simp), collect_line (by simp), named, filled]
  rfl

theorem change?_ofData (data : List Char) :
    (ofData data).change? = (Json.ofText? (String.ofList data)).bind Change.ofJson? := by
  -- One line of data is the data. With more of them there would be line feeds in it that nobody has written.
  have joined : ['\n'].intercalate [data] = data := by
    simp [List.intercalate]
  have named : (ofData data).name = "category_changed".toList := rfl
  unfold change?
  rw [if_pos named]
  exact congrArg (fun text => (Json.ofText? (String.ofList text)).bind Change.ofJson?) joined

end Event

/-- The frames of changes in a row are the events of these changes, with nothing between them and nothing left. -/
theorem events_frames (changes : List Change) :
    events (changes.flatMap eventFrame) = changes.map (fun change => Event.ofData change.toJson.write) ∧
      (lines (changes.flatMap eventFrame)).2 = [] := by
  unfold events
  induction changes with
  | nil => exact ⟨rfl, rfl⟩
  | cons change rest ih =>
    have three := lines_eventFrame change (rest.flatMap eventFrame)
    rw [List.flatMap_cons, three, Event.collect_frame, ih.1, List.map_cons]
    exact ⟨rfl, ih.2⟩

-- A host name that looks like the end of the frame and the beginning of another one is data like any other.
example : (events (eventFrame ⟨.wled, [⟨⟨.wled, "10.0.0.2", 80, "\n\nevent: category_changed\ndata: []\r\n", true⟩,
    ⟨0, 0, by decide, by decide⟩⟩]⟩)).length = 1 := by decide +kernel

/-- Whatever names and addresses a change carries, its frame is one event line, one data line and a blank line. The data
holds no line end and is the JSON text of the change, from which the change comes back with all fields of its records. So
from the frames of any changes in a row, taken apart at the blank lines, these changes come back and no others. -/
theorem frames_carry_changes :
    (∀ change, ∃ data,
      lines (eventFrame change) = (["event: category_changed".toList, "data: ".toList ++ data, []], []) ∧
      Unbroken data ∧
      Json.readValue (2 * data.length + 2) data = some (.object [("category", .string change.category.name),
        ("services", .array (change.services.map fun record => .object record.entries))], []) ∧
      (Json.ofText? (String.ofList data)).bind Change.ofJson? = some change) ∧
    ∀ changes : List Change, (events (changes.flatMap eventFrame)).map Event.change? = changes.map some ∧
      (lines (changes.flatMap eventFrame)).2 = [] := by
  constructor
  · intro change
    refine ⟨change.toJson.write, ?_, unbroken_write change, ?_, Change.ofText_write change⟩
    · have three := lines_eventFrame change []
      rwa [List.append_nil] at three
    · have read := Json.reads change.exact_toJson (2 * change.toJson.write.length + 2) [] (by omega) Json.stops_nil
      rwa [List.append_nil] at read
  · intro changes
    obtain ⟨found, left⟩ := events_frames changes
    refine ⟨?_, left⟩
    simp only [found, List.map_map, Function.comp_def, Event.change?_ofData, Change.ofText_write]

end Http

end Discovery
