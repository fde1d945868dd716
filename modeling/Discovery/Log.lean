/-!
# Log lines

What the daemon reports about its work. Log lines are values that an operation returns beside its result;
no operation depends on them.
-/
namespace Discovery

inductive Level where
  | trace
  | debug
  | info
  | warn
  | error
  deriving DecidableEq, Repr

def Level.name : Level → String
  | trace => "trace"
  | debug => "debug"
  | info => "info"
  | warn => "warn"
  | error => "error"

structure Log where
  level : Level
  message : String
  deriving DecidableEq, Repr

namespace Log

def trace (message : String) : Log := ⟨.trace, message⟩

def debug (message : String) : Log := ⟨.debug, message⟩

def info (message : String) : Log := ⟨.info, message⟩

def warn (message : String) : Log := ⟨.warn, message⟩

def error (message : String) : Log := ⟨.error, message⟩

end Log

end Discovery
