import Discovery.Category
/-!
# Serial ports

Serial ports as the system enumerates them. Only ports on USB carry the identity of the board behind them; its
vendor tells the family it belongs to.
-/
namespace Discovery.Serial

/-- What a USB device says about itself. -/
structure UsbIdentity where
  vendor : UInt16
  product : UInt16
  manufacturerName : Option String
  productName : Option String
  deriving DecidableEq, Repr

inductive Attachment where
  | usb (identity : UsbIdentity)
  | pci
  | bluetooth
  | unknown
  deriving DecidableEq, Repr

structure Port where
  /-- The device path. -/
  name : String
  attachment : Attachment
  deriving DecidableEq, Repr

/-- The answer to an enumeration. -/
inductive Ports where
  | listed (ports : List Port)
  | unavailable (reason : String)
  deriving DecidableEq, Repr

end Discovery.Serial

namespace Discovery.Category

/-- The board family that a USB vendor ships. Any other vendor makes it a mere serial port. -/
def ofVendor (vendor : UInt16) : Category :=
  if vendor = 0x2e8a then pico
  else if vendor = 0x303a then esp32s2
  else if vendor = 0x1a86 ∨ vendor = 0x10c4 ∨ vendor = 0x0403 then esp
  else serial

end Discovery.Category
