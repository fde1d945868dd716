import Discovery.Log
import Discovery.Mdns.Announcement
import Discovery.Mdns.Responder
/-!
# The browser

The browser follows the announced families. Every browse it starts for a category opens a channel on which the
responder reports what it finds; a scan restarts the browse and so opens a new one. Browses of a category are
numbered by generations, and only the newest counts: whatever still arrives on an older channel is dropped, and
the browser then stops listening to it.

Resolved services are remembered by name, so that a removal, which names the service only, can be reported as a
deregistration of what was sighted.
-/
namespace Discovery.Mdns

inductive Event where
  | resolved (service : Announcement)
  | removed (fullName : String)
  /-- A service was found that is not resolved yet. -/
  | found (fullName : String)
  | searchStarted
  | searchStopped
  deriving DecidableEq, Repr

/-- What arrives on a channel: an event, or the news that the responder has closed it. -/
inductive Arrival where
  | event (event : Event)
  | disconnected
  deriving DecidableEq, Repr

/-- A channel by its category and the generation of its browse. -/
structure Listener where
  category : Category
  generation : Nat
  deriving DecidableEq, Repr

structure Browser where
  /-- The number of browses that have been started for a category. -/
  generation : Category → Nat
  listeners : List Listener
  /-- The last sighting of every resolved service that has not been removed, by full name. -/
  resolved : List (String × Sighting)

structure Browsing where
  browser : Browser
  calls : List Call
  logs : List Log

namespace Browser

def empty : Browser := ⟨fun _ => 0, [], []⟩

/-- The channel of the newest browse. -/
def isCurrent (browser : Browser) (listener : Listener) : Bool :=
  browser.generation listener.category == listener.generation

/-- The next generation of a category, with its channel. -/
def advance (browser : Browser) (category : Category) : Browser :=
  let next := browser.generation category + 1
  { browser with
    generation := fun other => if other = category then next else browser.generation other
    listeners := browser.listeners ++ [⟨category, next⟩] }

def ignore (browser : Browser) (listener : Listener) : Browser :=
  { browser with listeners := browser.listeners.filter (· ≠ listener) }

/-- Start a browse. If it fails, the one before it stays the newest. -/
def start (browser : Browser) (responder : Responder) (category : Category) : Browsing :=
  match category.serviceType? with
  | none => ⟨browser, [], []⟩
  | some serviceType =>
    let call := Call.browse serviceType
    match responder call with
    | .ok () => ⟨browser.advance category, [call], []⟩
    | .error reason => ⟨browser, [call], [.error ("Failed to browse " ++ serviceType ++ ": " ++ reason)]⟩

/-- Stop a category's browse and start it again. -/
def restart (browser : Browser) (responder : Responder) (category : Category) : Browsing :=
  match category.serviceType? with
  | none => ⟨browser, [], []⟩
  | some serviceType =>
    let call := Call.stopBrowse serviceType
    let failed := match responder call with
      | .ok () => []
      | .error reason => [Log.warn ("Failed to stop browse for " ++ serviceType ++ ": " ++ reason)]
    let started := browser.start responder category
    { started with
      calls := call :: started.calls
      logs := .debug ("Restarting browse for " ++ serviceType) :: failed ++ started.logs }

def forEach (operation : Browser → Category → Browsing) (browser : Browser) (categories : List Category) :
    Browsing :=
  categories.foldl (fun done category =>
    let next := operation done.browser category
    ⟨next.browser, done.calls ++ next.calls, done.logs ++ next.logs⟩) ⟨browser, [], []⟩

/-- Start a browse for every announced family. -/
def startAll (browser : Browser) (responder : Responder) : Browsing :=
  forEach (·.start responder ·) browser Category.concrete

def remember (browser : Browser) (fullName : String) (sighting : Sighting) : Browser :=
  { browser with resolved := (fullName, sighting) :: browser.resolved.filter (·.1 ≠ fullName) }

def forget (browser : Browser) (fullName : String) : Browser :=
  { browser with resolved := browser.resolved.filter (·.1 ≠ fullName) }

/-- The last sighting of a service that has not been removed. -/
def remembered? (browser : Browser) (fullName : String) : Option Sighting := browser.resolved.lookup fullName

/-- Apply an event of a current browse; the result is the sighting to report, if there is one. -/
def apply (browser : Browser) (category : Category) : Event → Browser × Option Sighting
  | .resolved service =>
    match service.sighting? category with
    | some sighting => (browser.remember service.fullName sighting, some sighting)
    | none => (browser, none)
  | .removed fullName =>
    match browser.remembered? fullName with
    | some sighting => (browser.forget fullName, some { sighting with live := false })
    | none => (browser, none)
  | .found _ | .searchStarted | .searchStopped => (browser, none)

def receive (browser : Browser) (listener : Listener) (arrival : Arrival) : Browser × Option Sighting :=
  if listener ∉ browser.listeners then (browser, none)
  else if !browser.isCurrent listener then (browser.ignore listener, none)
  else match arrival with
    | .event event => browser.apply listener.category event
    | .disconnected => (browser.ignore listener, none)

end Browser

end Discovery.Mdns
