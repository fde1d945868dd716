/-!
# The responder

The responder answers and asks on the network on behalf of this host. What the daemon does with it is a sequence
of calls; whether a call succeeds is up to the responder, and a call that fails gives a reason.
-/
namespace Discovery.Mdns

inductive Call where
  | start
  | shutdown
  | browse (serviceType : String)
  | stopBrowse (serviceType : String)
  | register (fullName : String)
  | unregister (fullName : String)
  | disableInterfaces
  | enableInterface (name : String)
  deriving DecidableEq, Repr

/-- The responder's answer to every call: nothing, or the reason of a failure. -/
abbrev Responder := Call → Except String Unit

end Discovery.Mdns
