import Discovery.Fingerprint
import Discovery.Store
/-!
# The catalogue

The catalogue holds one store for each concrete category and applies sightings and queries to them. Whenever the
membership of a store changes, it announces the list of that category as it is then and publishes the
fingerprint of everything it holds. A query of one category cleans that category up and asks for a scan, which is
triggered only after the query has been answered, so an answer never waits for a scan.

Clock and interfaces are read anew for every operation. An operation on every category reads the clock for each of
them, so what an operation reads is a `Reading`; a `Moment` is one in which the clock stands still.
-/
namespace Discovery

open Net (Interfaces)
open Time (Instant Span)

/-- The membership of a category changed. Carries the list after the change. -/
structure Change where
  category : Category
  services : List Record
  deriving DecidableEq

/-- What one operation reads of its surroundings: the clock, for each category it touches, and the interfaces. -/
structure Reading where
  clock : Category → Instant
  interfaces : Interfaces

/-- The surroundings of one operation during which the clock stands still. -/
structure Moment where
  now : Instant
  interfaces : Interfaces
  deriving DecidableEq

def Moment.reading (moment : Moment) : Reading := ⟨fun _ => moment.now, moment.interfaces⟩

structure Catalogue where
  stores : List Store
  /-- The scans that queries have asked for and that have not been triggered, oldest first. -/
  pending : List Category
  /-- How long a sighting keeps an entry alive. -/
  window : Span
  /-- The fingerprint as last published. -/
  fingerprint : String
  deriving DecidableEq

inductive Request where
  | sighting (sighting : Sighting)
  | services (category : Category)
  | sessions
  | everything
  | scan (category : Category)
  | scanAll
  | cleanUpAll
  deriving DecidableEq

/-- What an operation does: the catalogue afterwards, the records it answers if it is a query, the changes it
announces, the scans it triggers, and its log lines. -/
structure Step where
  catalogue : Catalogue
  answer : Option (List Record)
  changes : List Change
  scans : List Category
  logs : List Log

namespace Catalogue

def empty (window : Span) : Catalogue :=
  { stores := Category.concrete.map Store.empty, pending := [], window, fingerprint := Discovery.fingerprint [] }

/-- The store of a category. The sentinel has none. -/
def store? (catalogue : Catalogue) (category : Category) : Option Store :=
  catalogue.stores.find? (·.category = category)

def list (catalogue : Catalogue) (category : Category) : List Record :=
  match catalogue.store? category with
  | some store => store.records
  | none => []

/-- The records of all categories, grouped by category. -/
def all (catalogue : Catalogue) : List Record := catalogue.stores.flatMap Store.records

def replace (catalogue : Catalogue) (store : Store) : Catalogue :=
  { catalogue with
    stores := catalogue.stores.map fun held => if held.category = store.category then store else held }

def idle (catalogue : Catalogue) : Step := ⟨catalogue, none, [], [], []⟩

/-- Announce a category's list and publish the fingerprint. -/
def announce (catalogue : Catalogue) (category : Category) (logs : List Log) : Step :=
  { catalogue := { catalogue with fingerprint := Discovery.fingerprint catalogue.all }
    answer := none
    changes := [⟨category, catalogue.list category⟩]
    scans := []
    logs }

def cleanUp (catalogue : Catalogue) (now : Instant) (category : Category) : Step :=
  match catalogue.store? category with
  | none => catalogue.idle
  | some store =>
    if (store.expired now).isEmpty then catalogue.idle
    else (catalogue.replace (store.cleanUp now)).announce category (store.cleanUpLogs now)

end Catalogue

namespace Step

def andThen (first : Step) (next : Catalogue → Step) : Step :=
  let second := next first.catalogue
  { catalogue := second.catalogue
    answer := second.answer
    changes := first.changes ++ second.changes
    scans := first.scans ++ second.scans
    logs := first.logs ++ second.logs }

end Step

namespace Catalogue

/-- Drop the expired entries of every category, in listing order. -/
def cleanUpAll (catalogue : Catalogue) (clock : Category → Instant) : Step :=
  Category.concrete.foldl (fun step category => step.andThen (·.cleanUp (clock category) category)) catalogue.idle

/-- Ask for a scan, unless it has been asked for already. -/
def queueScan (catalogue : Catalogue) (target : Category) : Catalogue :=
  if target ∈ catalogue.pending then catalogue
  else { catalogue with pending := catalogue.pending ++ [target] }

/-- The categories that are scanned under their own name. -/
def scanTargets : List Category := Category.concrete.filter fun category => category.scanTarget = some category

/-- Apply a sighting. The sentinel category has no store and is ignored. -/
def sight (catalogue : Catalogue) (reading : Reading) (sighting : Sighting) : Except Overflow Step :=
  match catalogue.store? sighting.category with
  | none => .ok { catalogue.idle with logs := [.debug "Ignoring sighting without a concrete category"] }
  | some store => do
    let merge ← store.merge sighting reading.interfaces catalogue.window (reading.clock sighting.category)
    let merged := catalogue.replace merge.store
    if merge.outcome.changed then return merged.announce sighting.category merge.logs
    else return { merged.idle with logs := merge.logs }

/-- Answer the list of one category, cleaned up, and ask for a scan of it. -/
def services (catalogue : Catalogue) (now : Instant) (category : Category) : Step :=
  (catalogue.cleanUp now category).andThen fun cleaned =>
    let queued := match category.scanTarget with
      | some target => cleaned.queueScan target
      | none => cleaned
    { queued.idle with answer := some (queued.list category) }

def scanAll (catalogue : Catalogue) (clock : Category → Instant) : Step :=
  (catalogue.cleanUpAll clock).andThen fun cleaned => (scanTargets.foldl queueScan cleaned).idle

/-- The scans that a request for a category triggers: itself, but nothing for the sentinel. -/
def triggered (category : Category) : List Category := if category = .unknown then [] else [category]

def runPending (catalogue : Catalogue) : Step :=
  { catalogue := { catalogue with pending := [] }
    answer := none
    changes := []
    scans := catalogue.pending.flatMap triggered
    logs := [] }

/-- Handle a request. Only a sighting can fail, and then nothing has changed. -/
def handle (catalogue : Catalogue) (reading : Reading) : Request → Except Overflow Step
  | .sighting sighting => catalogue.sight reading sighting
  | .services category => .ok (catalogue.services (reading.clock category) category)
  | .sessions => .ok { catalogue.idle with answer := some (catalogue.list .hyperhdr) }
  | .everything => .ok { catalogue.idle with answer := some catalogue.all }
  | .scan category => .ok { catalogue.idle with scans := triggered category }
  | .scanAll => .ok (catalogue.scanAll reading.clock)
  | .cleanUpAll => .ok (catalogue.cleanUpAll reading.clock)

/-- Handle a request while the clock stands still. -/
def serve (catalogue : Catalogue) (moment : Moment) : Request → Except Overflow Step :=
  catalogue.handle moment.reading

end Catalogue

end Discovery
