/-!
# Service categories

A category is the protocol family a discovered device speaks. Seven categories are concrete; `unknown`
is a sentinel that no device ever carries. Three families announce themselves over multicast DNS and
are found by their service type. Boards on a serial port are found by enumerating ports, so the four
serial categories share one scan target.
-/
namespace Discovery

inductive Category where
  | hyperhdr
  | wled
  | hue
  | pico
  | esp32s2
  | esp
  | serial
  | unknown
  deriving DecidableEq, Repr, Inhabited

namespace Category

/-- Position in the listing order, the order of declaration. -/
def rank : Category → Nat
  | hyperhdr => 0
  | wled => 1
  | hue => 2
  | pico => 3
  | esp32s2 => 4
  | esp => 5
  | serial => 6
  | unknown => 7

instance : LE Category := ⟨fun left right => left.rank ≤ right.rank⟩

instance (left right : Category) : Decidable (left ≤ right) :=
  inferInstanceAs (Decidable (left.rank ≤ right.rank))

theorem le_iff_rank (left right : Category) : left ≤ right ↔ left.rank ≤ right.rank := Iff.rfl

theorem rank_injective {left right : Category} (same : left.rank = right.rank) : left = right := by
  cases left <;> cases right <;> simp_all [rank]

/-- The name written in records, queries and events. -/
def name : Category → String
  | hyperhdr => "hyperhdr"
  | wled => "wled"
  | hue => "hue"
  | pico => "pico"
  | esp32s2 => "esp32_s2"
  | esp => "esp"
  | serial => "serial"
  | unknown => "unknown"

/-- The name shown to people. -/
def label : Category → String
  | hyperhdr => "HyperHDR"
  | wled => "WLED"
  | hue => "Philips Hue"
  | pico => "Raspberry Pi Pico"
  | esp32s2 => "ESP32-S2"
  | esp => "ESP"
  | serial => "Serial port"
  | unknown => "Unknown"

/-- The concrete categories in listing order. -/
def concrete : List Category := [hyperhdr, wled, hue, pico, esp32s2, esp, serial]

/-- Every category in listing order, the sentinel last. -/
def all : List Category := concrete ++ [unknown]

theorem mem_all (category : Category) : category ∈ all := by
  cases category <;> simp [all, concrete]

theorem mem_concrete_iff {category : Category} : category ∈ concrete ↔ category ≠ unknown := by
  cases category <;> simp [concrete]

def ofName? (text : String) : Option Category := all.find? (·.name == text)

theorem ofName?_name (category : Category) : ofName? category.name = some category := by
  cases category <;> decide

/-- The category whose scan refreshes entries of this one. -/
def scanTarget : Category → Option Category
  | hyperhdr => some hyperhdr
  | wled => some wled
  | hue => some hue
  | pico | esp32s2 | esp | serial => some serial
  | unknown => none

/-- The service type under which an announced family is browsed. -/
def serviceType? : Category → Option String
  | hyperhdr => some "_hyperhdr-http._tcp.local."
  | wled => some "_wled._tcp.local."
  | hue => some "_hue._tcp.local."
  | _ => none

/-- The category browsed under a service type, the sentinel for any other text. -/
def ofServiceType (serviceType : String) : Category :=
  (concrete.find? (·.serviceType? == some serviceType)).getD unknown

end Category

end Discovery
