import Discovery.Host.Files
/-!
# The layout of an ordinary machine

The folders that every machine has, and the files in them that are always there. They decide at which paths outside
the daemon's own folders a file can be created.
-/
namespace Discovery.Host.Layout

def folders (names : List String) : List (String × Node) := names.map fun name => (name, .folder [])

def files (names : List String) : List (String × Node) := names.map fun name => (name, .file)

def root : Node :=
  .folder (folders ["bin", "boot", "home", "lib", "lib64", "media", "mnt", "opt", "run", "sbin", "srv", "tmp"] ++ [
    ("dev", .folder (files ["full", "null", "random", "tty", "urandom", "zero"] ++
      folders ["fd", "mqueue", "pts", "shm"])),
    ("etc", .folder (files ["fstab", "group", "hostname", "hosts", "passwd", "resolv.conf", "shadow"])),
    ("proc", .folder (files ["cmdline", "cpuinfo", "meminfo", "stat", "uptime", "version"] ++
      folders ["1", "self", "sys"])),
    ("root", .folder [("work", .folder (folders ["daemon"]))]),
    ("sys", .folder (folders ["block", "bus", "class", "dev", "devices", "fs", "kernel", "module"])),
    ("usr", .folder (folders ["bin", "include", "lib", "local", "sbin", "share", "src"])),
    ("var", .folder (folders ["cache", "lib", "log", "opt", "spool", "tmp"]))])

/-- The folder in which the daemon works. -/
def home : List String := ["root", "work", "daemon"]

/-- Create a file at a path, or say why that is not possible. -/
def create (path : String) : Except String Unit := (root.create home path).mapError FileError.message

end Discovery.Host.Layout
