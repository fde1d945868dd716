import Discovery.Daemon
import Discovery.Host.Layout
/-!
# Command line

Reads the configuration named on the command line, starts the daemon, and answers requests from standard input, one
a line as a method and a target, until the input ends. The host is one without serial ports and interfaces; its
clock is the monotonic clock.
-/
namespace Discovery

open Time (Instant)

/-- The configuration file if none is named. -/
def defaultPath : String := "/etc/service-discovery/discoveryd.toml"

/-- The surroundings of a daemon that is cut off from the network. -/
def isolated : IO Setting := do
  let millis ← IO.monoMsNow
  let now := (Instant.ofMillis? (millis : Nat)).getD .epoch
  let absent := "No such file or directory"
  return {
    moment := ⟨now, .readable []⟩
    host := { ports := .listed [], openPort := fun _ => .error absent, createFile := Host.Layout.create }
    responder := fun _ => .ok () }

/-- What a file holds, or why it cannot be read. -/
def readFile (path : String) : IO (Except String (List UInt8)) := do
  try
    let bytes ← IO.FS.readBinFile path
    return .ok bytes.toList
  catch error => return .error (toString error)

/-- The text of a response's body. -/
def Http.Body.toText : Http.Body → String
  | .empty | .stream => ""
  | .json value => value.toText
  | .text content => content

/-- A chain of reasons, the general one first. -/
def chainText : List String → String
  | [] => ""
  | first :: causes =>
    let listed := causes.zipIdx.map fun (cause, index) => "    " ++ toString index ++ ": " ++ cause ++ "\n"
    "Error: " ++ first ++ "\n" ++ (if causes.isEmpty then "" else "\nCaused by:\n" ++ String.join listed)

/-- Answer requests until the input ends. -/
partial def answerRequests (daemon : Daemon) : IO Daemon := do
  let line ← (← IO.getStdin).getLine
  if line.isEmpty then return daemon
  match (line.trimAscii.toString.splitOn " ").filter (!·.isEmpty) with
  | [method, target] =>
    let done := daemon.service.respond (← isolated) ⟨method, target⟩
    IO.println (toString done.result.status ++ " " ++ done.result.body.toText)
    answerRequests { daemon with service := done.service }
  | _ => answerRequests daemon

end Discovery

open Discovery in
def main (arguments : List String) : IO UInt32 := do
  let path := arguments.headD defaultPath
  let setting ← isolated
  let machine : Machine :=
    { setting, identity := ⟨.ok "localhost".toUTF8.toList, .readable []⟩, listen := fun _ _ => .ok () }
  match Daemon.start (← readFile path) machine with
  | (.error error, _) =>
    IO.eprint (chainText (error.chain ConfigError.message path))
    return 1
  | (.ok daemon, _) =>
    let ended ← answerRequests daemon
    let _ := ended.stop (← isolated)
    return 0
