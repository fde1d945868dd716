import Discovery.Proofs.Dispatcher.Lifecycle
/-!
# What a scan of serial ports finds

What a controller finds on a host is told by its options and by the ports that the host lists. It does not change with what
it finds, so a dispatcher that employs a controller for its scans employs the same one after them.
-/
namespace Discovery

open Serial (Port)

namespace Adalight

/-- What the controller finds on the host, nothing if the ports cannot be listed. -/
def finds (device : Adalight) (host : Host) : List Sighting :=
  match host.ports with
  | .listed ports => (boards device.options ports).map Board.sighting
  | .unavailable _ => []

theorem discover_eq (device : Adalight) (host : Host) :
    (device.discover host).device = device ∧ (device.discover host).effects.sightings = device.finds host := by
  unfold discover finds
  cases host.ports <;> exact ⟨rfl, rfl⟩

/-- A path is not found more often than it is listed. -/
theorem countP_boards (options : Options) (ports : List Port) (path : String) :
    (boards options ports).countP (·.port = path) ≤ ports.countP (·.name = path) := by
  induction ports with
  | nil => exact Nat.le_refl 0
  | cons port rest ih =>
    unfold boards at ih ⊢
    rw [List.filterMap_cons, List.countP_cons]
    split
    next => exact Nat.le_add_right_of_le ih
    next board reported =>
      have own : board.port = port.name := by
        split at reported
        · dsimp only at reported
          split at reported <;> cases reported
          rfl
        · cases reported
      rw [List.countP_cons, own]
      exact Nat.add_le_add_right ih _

theorem countP_finds {device : Adalight} {host : Host} {ports : List Port} (listed : host.ports = .listed ports)
    (path : String) : (device.finds host).countP (·.address = path) ≤ ports.countP (·.name = path) := by
  simp only [finds, listed, List.countP_map]
  exact countP_boards device.options ports path

theorem of_mem_finds {device : Adalight} {host : Host} {incoming : Sighting} (member : incoming ∈ device.finds host) :
    incoming.category ≠ .unknown ∧ incoming.live = true := by
  unfold finds at member
  split at member
  · obtain ⟨board, _, rfl⟩ := List.mem_map.mp member
    refine ⟨?_, rfl⟩
    simp only [Board.sighting, Board.category, Category.ofVendor]
    repeat' split
    all_goals exact Category.noConfusion
  · cases member

end Adalight

namespace Dispatcher

variable {dispatcher : Dispatcher Backend} {device : Adalight}

/-- Scans of serial ports are up to this controller, or will be when the first of them has built it. -/
def Employs (dispatcher : Dispatcher Backend) (device : Adalight) : Prop :=
  dispatcher.serial = .running (.adalight device) ∨
    dispatcher.serial = .unused ∧ ∃ logs, dispatcher.construction.result = .ok (.adalight device, logs)

theorem Employs.scanSerial (employs : dispatcher.Employs device) (host : Host) :
    (dispatcher.scanSerial host).1.Employs device ∧
      (dispatcher.scanSerial host).2.2.sightings = device.finds host := by
  obtain ⟨same, found⟩ := device.discover_eq host
  rcases employs with running | ⟨unused, logs, built⟩
  · simp only [Dispatcher.scanSerial, running, runDiscovery]
    constructor
    · exact .inl (congrArg (fun kept => SerialBackend.running (Backend.adalight kept)) same)
    · exact (List.append_nil _).trans found
  · unfold construction at built
    simp only [Dispatcher.scanSerial, unused, built, runDiscovery]
    constructor
    · exact .inl (congrArg (fun kept => SerialBackend.running (Backend.adalight kept)) same)
    · exact (List.append_nil _).trans found

theorem Employs.trigger (employs : dispatcher.Employs device) (requests : Channel Category) (host : Host)
    (category : Category) :
    (dispatcher.trigger requests host category).dispatcher.Employs device ∧
      (dispatcher.trigger requests host category).effects.sightings =
        if category = .serial then device.finds host else [] := by
  by_cases serial : category = .serial
  · subst serial
    exact employs.scanSerial host
  · obtain ⟨same, _, silent⟩ := trigger_of_other serial dispatcher requests host
    rw [same, silent, if_neg serial]
    exact ⟨employs, rfl⟩

end Dispatcher

end Discovery
