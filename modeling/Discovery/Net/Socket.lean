import Discovery.Decimal.Digits
/-!
# Socket addresses

Where to listen: a host and a port, joined by the last colon. What the host denotes is up to the system.
-/
namespace Discovery.Net

inductive ListenError where
  /-- There is no colon. -/
  | invalidAddress
  | invalidPort
  /-- The system refuses to listen there. -/
  | refused (reason : String)
  deriving DecidableEq, Repr

def ListenError.message : ListenError → String
  | invalidAddress => "invalid socket address"
  | invalidPort => "invalid port value"
  | refused reason => reason

/-- A port number in decimal digits, perhaps with a plus sign. -/
def port? (text : List Char) : Option UInt16 :=
  let run := match text with
    | '+' :: rest => rest
    | text => text
  if run.isEmpty ∨ !run.all Decimal.isDigit ∨ 65535 < Decimal.value run then none
  else some (UInt16.ofNat (Decimal.value run))

/-- The host and the port of a socket address. -/
def splitSocket (text : String) : Except ListenError (String × UInt16) :=
  let reversed := text.toList.reverse
  match reversed.dropWhile (· ≠ ':') with
  | [] => .error .invalidAddress
  | _ :: host =>
    match port? (reversed.takeWhile (· ≠ ':')).reverse with
    | some port => .ok (String.ofList host.reverse, port)
    | none => .error .invalidPort

end Discovery.Net
