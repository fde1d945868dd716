import Discovery.Proofs.Dispatcher.SerialPorts
import Mathlib.Data.List.Forall2
/-!
# A discovery and its sightings

A discovery answers twice: with the list of devices that it returns, and with the sightings that it reports meanwhile. Both
go through the ports in the order in which the host lists them and pass over the same ports, so that they tell of the same
ones, place by place. If the ports cannot be listed there is neither.
-/
namespace Discovery

open Serial (Port)

namespace Category

/-- The board families that are known by their vendors. -/
def boards : List Category := [pico, esp32s2, esp]

theorem ofVendor_mem_boards_iff {vendor : UInt16} : ofVendor vendor ∈ boards ↔ ofVendor vendor ≠ serial := by
  unfold ofVendor
  split
  · decide
  split
  · decide
  split
  · decide
  · decide

end Category

namespace Adalight

/-- The ports that a discovery has to report: those on USB, and if only board families are wanted then those of one. -/
def wanted (unrecognized : Bool) (port : Port) : Bool :=
  match port.attachment with
  | .usb identity => decide (Category.ofVendor identity.vendor ∈ Category.boards) || unrecognized
  | .pci | .bluetooth | .unknown => false

variable {options : Options} {port : Port}

theorem boards_cons_of_wanted (reported : wanted options.includeUnrecognized port = true) (rest : List Port) :
    ∃ identity, port.attachment = .usb identity ∧
      boards options (port :: rest) = ⟨port.name, identity⟩ :: boards options rest := by
  unfold wanted at reported
  split at reported
  next identity plugged =>
    simp only [Bool.or_eq_true, decide_eq_true_eq, Category.ofVendor_mem_boards_iff] at reported
    have kept : ¬ (Category.ofVendor identity.vendor = .serial ∧ (!options.includeUnrecognized) = true) := by
      rintro ⟨mere, unwanted⟩
      rcases reported with known | all
      · exact known mere
      · simp [all] at unwanted
    refine ⟨identity, plugged, List.filterMap_cons_some ?_⟩
    simp only [plugged]
    exact if_neg kept
  all_goals cases reported

theorem boards_cons_of_unwanted (passed : wanted options.includeUnrecognized port = false) (rest : List Port) :
    boards options (port :: rest) = boards options rest := by
  apply List.filterMap_cons_none
  unfold wanted at passed
  split at passed
  next identity plugged =>
    simp only [Bool.or_eq_false_iff, decide_eq_false_iff_not, Category.ofVendor_mem_boards_iff, not_not] at passed
    simp only [plugged]
    exact if_pos ⟨passed.1, by simp [passed.2]⟩
  all_goals simp only [*]

/-- The board is what is behind the port. -/
def Behind (port : Port) (board : Board) : Prop := board.port = port.name ∧ port.attachment = .usb board.identity

theorem behind_boards (options : Options) (ports : List Port) :
    List.Forall₂ Behind (ports.filter (wanted options.includeUnrecognized)) (boards options ports) := by
  induction ports with
  | nil => exact .nil
  | cons port rest ih =>
    cases reported : wanted options.includeUnrecognized port with
    | true =>
      obtain ⟨identity, plugged, found⟩ := boards_cons_of_wanted reported rest
      rw [List.filter_cons_of_pos reported, found]
      exact .cons ⟨rfl, plugged⟩ ih
    | false =>
      rw [List.filter_cons_of_neg (by simp [reported]), boards_cons_of_unwanted reported rest]
      exact ih

/-- A sighting of a board at a port. -/
structure Sights (port : Port) (sighting : Sighting) : Prop where
  address : sighting.address = port.name
  category : ∃ identity, port.attachment = .usb identity ∧ sighting.category = .ofVendor identity.vendor
  port : sighting.port = 0
  live : sighting.live = true

/-- A device that is returned is the one that has been sighted. -/
structure Describes (device : Json) (sighting : Sighting) : Prop where
  port : device.field? "port" = some (.string sighting.address)
  category : device.field? "category" = some sighting.category.toJson

theorem sights_of_behind {board : Board} (behind : Behind port board) : Sights port board.sighting :=
  ⟨behind.1, ⟨board.identity, behind.2, rfl⟩, rfl, rfl⟩

theorem describes_sighting (board : Board) : Describes board.toJson board.sighting := ⟨rfl, rfl⟩

/-- What a discovery returns and what it reports agree device by device, and they are told of the ports on USB that are of
a board family, and of the other ports on USB if the options ask for these, one for each in the order of the ports. A
discovery that is not told the ports fails and reports nothing. -/
theorem discovery_accounts_for_ports (device : Adalight) (host : Host) (params : Json) :
    let reply := Device.discover host params (Backend.adalight device)
    let sightings := reply.effects.sightings
    (∀ reason, host.ports = .unavailable reason → reply.result = .error (.serial reason) ∧ sightings = []) ∧
    ∀ ports, host.ports = .listed ports → ∃ devices : List Json,
      reply.result = .ok (.object [("devices", .array devices)]) ∧
      devices.length = sightings.length ∧
      List.Forall₂ Describes devices sightings ∧
      List.Forall₂ Sights (ports.filter (wanted device.options.includeUnrecognized)) sightings := by
  intro reply sightings
  constructor
  · intro reason unavailable
    simp only [sightings, reply, Device.discover, Backend.lift, discover, unavailable]
    exact ⟨trivial, rfl⟩
  · intro ports listed
    have result : reply.result = .ok (.object [("devices", .array ((boards device.options ports).map Board.toJson))]) := by
      simp only [reply, Device.discover, Backend.lift, discover, listed]
    have reported : sightings = (boards device.options ports).map Board.sighting := by
      simp only [sightings, reply, Device.discover, Backend.lift, discover, listed]
    refine ⟨_, result, ?_, ?_, ?_⟩
    · rw [reported, List.length_map, List.length_map]
    · rw [reported, List.forall₂_map_left_iff, List.forall₂_map_right_iff]
      exact List.forall₂_same.mpr fun board _ => describes_sighting board
    · rw [reported, List.forall₂_map_right_iff]
      exact (behind_boards device.options ports).imp fun _ _ => sights_of_behind

/-- A host with a board, a port that is not on USB, a cable and a device of an unknown vendor. The cable is at a port of the
same name as the device. -/
def benchPorts : List Port := [
  ⟨"/dev/ttyACM0", .usb ⟨0x2e8a, 5, some "Raspberry Pi", some "Pico"⟩⟩, ⟨"/dev/ttyS0", .unknown⟩,
  ⟨"/dev/ttyUSB0", .usb ⟨0x1a86, 0x7523, none, none⟩⟩, ⟨"/dev/ttyUSB0", .usb ⟨0xdead, 1, none, some "Mystery"⟩⟩]

theorem discovery_accounts_for_ports_on_bench :
    let bench (ports : Serial.Ports) : Host := ⟨ports, fun _ => .error "busy", fun _ => .error "full"⟩
    let device : Adalight := ⟨⟨none, 2000000, false⟩, none⟩
    let reply := Device.discover (bench (.listed benchPorts)) .null (Backend.adalight device)
    (∃ devices : List Json, reply.result = .ok (.object [("devices", .array devices)]) ∧
      List.Forall₂ Describes devices reply.effects.sightings ∧
      List.Forall₂ Sights [benchPorts[0], benchPorts[2]] reply.effects.sightings) ∧
    (Device.discover (bench (.unavailable "unplugged")) .null (Backend.adalight device)).effects.sightings = [] := by
  intro bench device reply
  obtain ⟨devices, result, _, described, sighted⟩ :=
    (discovery_accounts_for_ports device (bench (.listed benchPorts)) .null).2 benchPorts rfl
  have filtered : benchPorts.filter (wanted false) = [benchPorts[0], benchPorts[2]] := by decide
  refine ⟨⟨devices, result, described, filtered ▸ sighted⟩, ?_⟩
  exact ((discovery_accounts_for_ports device (bench (.unavailable "unplugged")) .null).1 _ rfl).2

end Adalight

end Discovery
