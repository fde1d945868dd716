import Discovery.Catalogue
import Discovery.Json.Writer
/-!
# Event frames

How a change is sent on an event stream: a line with the name of the event, a line with the change as JSON, and a
blank line. JSON text holds no line ends, so the data is one line whatever names the records carry.
-/
namespace Discovery

def Change.toJson (change : Change) : Json :=
  .object [("category", change.category.toJson), ("services", Record.listToJson change.services)]

namespace Http

def eventFrame (change : Change) : List Char :=
  "event: category_changed\ndata: ".toList ++ change.toJson.write ++ ['\n', '\n']

def eventText (change : Change) : String := String.ofList (eventFrame change)

end Http

end Discovery
