import Discovery.Fingerprint
/-!
# Membership

A member is the identity of an entry together with its host name: what subscribers and pollers are told
about. Liveness and deadline are no part of it. A fingerprint is determined by the members of a list, so
whatever leaves the members alone leaves the fingerprint alone.
-/
namespace Discovery

/-- Identity and host name of an entry. -/
structure Member where
  key : Key
  hostName : String
  deriving DecidableEq, Repr

namespace Member

/-- A record of this member. Its deadline is arbitrary. -/
def toRecord (member : Member) (expiry : Time.Instant) : Record :=
  { category := member.key.category, address := member.key.address, port := member.key.port,
    hostName := member.hostName, live := true, expiry }

end Member

def Record.member (record : Record) : Member := ⟨record.key, record.hostName⟩

/-- The members of a list of records, in order. -/
def members (records : List Record) : List Member := records.map Record.member

@[simp] theorem length_members (records : List Record) : (members records).length = records.length :=
  List.length_map _

theorem members_flatMap {α : Type} (groups : List α) (records : α → List Record) :
    members (groups.flatMap records) = groups.flatMap fun group => members (records group) :=
  List.map_flatMap

namespace Fingerprint

/-- Neither the order of records nor their texts look at liveness or deadline. -/
private theorem text_members (records : List Record) (expiry : Time.Instant) :
    text records = text ((members records).map (·.toRecord expiry)) := by
  have sorted : (records.mergeSort keyLe).map (fun record => record.member.toRecord expiry) =
      (records.map fun record => record.member.toRecord expiry).mergeSort keyLe :=
    List.map_mergeSort fun _ _ _ _ => rfl
  have written : (fun record : Record => entry (record.member.toRecord expiry)) = entry := rfl
  simp only [text, members, List.map_map, Function.comp_def]
  rw [← sorted, List.flatMap_map, written]

theorem text_eq_of_members {left right : List Record} (same : members left = members right) :
    text left = text right := by
  rw [text_members left .epoch, text_members right .epoch, same]

end Fingerprint

theorem fingerprint_eq_of_members {left right : List Record} (same : members left = members right) :
    fingerprint left = fingerprint right := by
  simp only [fingerprint, Fingerprint.bytes, Fingerprint.text_eq_of_members same]

end Discovery
