/-!
# File trees

Whether a file can be created at a path. A path is walked name by name from the root; every name but the last has
to lead to a folder, and at the last a missing name is created and a file is emptied, but a folder is refused.
-/
namespace Discovery.Host

inductive Node where
  | file
  | folder (entries : List (String × Node))

inductive FileError where
  | notFound
  | notFolder
  | isFolder
  | nameTooLong
  | nulByte
  deriving DecidableEq, Repr

def FileError.message : FileError → String
  | notFound => "No such file or directory (os error 2)"
  | notFolder => "Not a directory (os error 20)"
  | isFolder => "Is a directory (os error 21)"
  | nameTooLong => "File name too long (os error 36)"
  | nulByte => "file name contained an unexpected NUL byte"

/-- One name of a path, taken from a node below the given ancestors. The result is again a node, if there is
one, and its ancestors. -/
def descend (node : Node) (above : List Node) (name : String) : Except FileError (Option Node × List Node) :=
  match node with
  | .file => .error .notFolder
  | .folder entries =>
    if 255 < name.utf8ByteSize then .error .nameTooLong
    else if name = "." then .ok (some node, above)
    else if name = ".." then
      match above with
      | parent :: rest => .ok (some parent, rest)
      | [] => .ok (some node, [])
    else .ok (entries.lookup name, node :: above)

/-- Create a file where a list of names leads. -/
def createAt (node : Node) (above : List Node) : List String → Except FileError Unit
  | [] => match node with
    | .folder _ => .error .isFolder
    | .file => .ok ()
  | name :: rest => do
    let (next, above) ← descend node above name
    match next with
    | some next => createAt next above rest
    | none => if rest.isEmpty then return () else throw .notFound

/-- Refuse the path of a folder, as a separator behind the last name makes it. -/
def refuseAt (node : Node) (above : List Node) : List String → FileError
  | [] => .isFolder
  | [_] => match node with
    | .folder _ => .isFolder
    | .file => .notFolder
  | name :: rest =>
    match descend node above name with
    | .ok (some next, above) => refuseAt next above rest
    | .ok (none, _) => .notFound
    | .error error => error

/-- Create a file at a path. A path that does not start at the root is taken from the folder that the names of
`home` lead to. -/
def Node.create (root : Node) (home : List String) (path : String) : Except FileError Unit :=
  if path.contains '\x00' then .error .nulByte
  else if path.isEmpty then .error .notFound
  else if 4096 ≤ path.utf8ByteSize then .error .nameTooLong
  else
    let start := if path.startsWith "/" then [] else home
    let names := start ++ (path.splitOn "/").filter (!·.isEmpty)
    if path.endsWith "/" then .error (refuseAt root [] names) else createAt root [] names

end Discovery.Host
