import Discovery.Serial.Port
/-!
# The host

What devices find in the host they work on: the serial ports it lists, and whether a port can be opened or a file
created at a path. Every use of a device is given the surroundings as they are at that moment.
-/
namespace Discovery

structure Host where
  ports : Serial.Ports
  /-- Opening the serial port at a path: the name that the open port reports, if it reports one, or why it
  cannot be opened. -/
  openPort : String → Except String (Option String)
  /-- Creating a file at a path: why it cannot be created, if it cannot. -/
  createFile : String → Except String Unit

end Discovery
