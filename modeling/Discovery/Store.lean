import Discovery.Decimal.Digits
import Discovery.Net.Interfaces
import Discovery.Record
/-!
# Category stores

The live entries of one category, in the order in which they were first sighted and without duplicates. A
sighting of a new entry adds it, a repeated sighting only moves the entry's deadline, a deregistration removes
it, and a clean-up drops every entry whose deadline has passed. Sightings of this host itself and records of
other categories are ignored.
-/
namespace Discovery

open Net (Interfaces)
open Time (Instant Span)

inductive MergeOutcome where
  | added
  | refreshed
  | removed
  | ignored
  deriving DecidableEq, Repr

namespace MergeOutcome

def name : MergeOutcome → String
  | added => "added"
  | refreshed => "refreshed"
  | removed => "removed"
  | ignored => "ignored"

/-- Subscribers see additions and removals only. -/
def changed : MergeOutcome → Bool
  | added | removed => true
  | refreshed | ignored => false

end MergeOutcome

structure Store where
  category : Category
  records : List Record
  deriving DecidableEq

/-- What a sighting did to a store. -/
structure Merge where
  store : Store
  outcome : MergeOutcome
  logs : List Log

/-- Where an entry is, as log lines name it. -/
def Sighting.place (sighting : Sighting) : String :=
  sighting.address ++ ":" ++ String.ofList (Decimal.digits sighting.port.toNat)

/-- An entry with its place and host name, as log lines name it. -/
def Sighting.summary (sighting : Sighting) : String :=
  sighting.name ++ " at " ++ sighting.place ++ " (" ++ sighting.hostName ++ ")"

/-- Give the first entry under a key a new deadline. -/
def renewFirst (key : Key) (expiry : Instant) : List Record → List Record
  | [] => []
  | record :: rest =>
    if record.key = key then { record with expiry } :: rest else record :: renewFirst key expiry rest

namespace Store

def empty (category : Category) : Store := ⟨category, []⟩

/-- The entry under a key. -/
def find? (store : Store) (key : Key) : Option Record := store.records.find? (·.key = key)

/-- Drop every entry whose deadline has passed. -/
def cleanUp (store : Store) (now : Instant) : Store :=
  { store with records := store.records.filter (!·.expiredAt now) }

/-- The entries that a clean-up drops. -/
def expired (store : Store) (now : Instant) : List Record := store.records.filter (·.expiredAt now)

def cleanUpLogs (store : Store) (now : Instant) : List Log :=
  (store.expired now).map fun record => .warn ("Removing not responding " ++ record.summary)

/-- A sighting of an entry of this category at an address that is not local. -/
def sight (store : Store) (incoming : Sighting) (expiry : Instant) : Merge :=
  match store.find? incoming.key with
  | some held => {
      store := { store with records := renewFirst incoming.key expiry store.records }
      outcome := .refreshed
      logs := [.debug ("Refreshed " ++ held.name ++ " at " ++ held.place)] }
  | none => {
      store := { store with records := store.records ++ [{ incoming with expiry }] }
      outcome := .added
      logs := [.info ("Found " ++ incoming.summary)] }

/-- A deregistration of an entry of this category at an address that is not local. -/
def deregister (store : Store) (incoming : Sighting) : Merge :=
  match store.find? incoming.key with
  | some _ => {
      store := { store with records := store.records.filter (·.key ≠ incoming.key) }
      outcome := .removed
      logs := [.info ("Deregistered " ++ incoming.summary)] }
  | none => { store, outcome := .ignored, logs := [] }

/-- Apply one sighting or deregistration. Only a sighting sets a deadline, so only it can fail. -/
def merge (store : Store) (incoming : Sighting) (interfaces : Interfaces) (window : Span) (now : Instant) :
    Except Overflow Merge :=
  if incoming.category ≠ store.category then .ok { store, outcome := .ignored, logs := [] }
  else
    let lookup := interfaces.lookupLogs incoming.address
    if interfaces.isLocal incoming.address then
      .ok { store, outcome := .ignored,
            logs := lookup ++ [.trace ("Ignoring self sighting at " ++ incoming.place)] }
    else if incoming.live then do
      let merged := store.sight incoming (← deadline now window)
      return { merged with logs := lookup ++ merged.logs }
    else
      let merged := store.deregister incoming
      .ok { merged with logs := lookup ++ merged.logs }

end Store

end Discovery
