import CellMachine.Text.Split

/-!
# Files

The files that a command can read: some in a directory and, elsewhere, those that every system has.
That is the null device, an empty file; of the other directories only some in the root directory are
known, without anything in them.

A path is followed part by part, where `.` stays in place, `..` leaves the directory, and a file has
nothing beyond it. The length of a path and of its parts is limited, and counted in bytes.
-/

namespace CellMachine.Cli

/-- Why a file could not be read. -/
inductive FileError
  | notFound
  | notADirectory
  | isADirectory
  | nameTooLong
  deriving DecidableEq, Repr

/-- The error in words, with the number that systems give it. -/
def FileError.message : FileError → String
  | .notFound => "No such file or directory (os error 2)"
  | .notADirectory => "Not a directory (os error 20)"
  | .isADirectory => "Is a directory (os error 21)"
  | .nameTooLong => "File name too long (os error 36)"

/-- The length that a path has at most. -/
def maxPathSize : Nat := 4095

/-- The length that a part of a path has at most. -/
def maxNameSize : Nat := 255

/-- Files by their names. -/
structure Directory where
  files : List (String × List UInt8)

/-- Where a path leads. -/
inductive Place
  /-- The directory itself. -/
  | here
  /-- Some directory above it. -/
  | above
  | root
  /-- The directory of the devices. -/
  | devices
  /-- Some other directory in the root directory. -/
  | system
  | file (bytes : List UInt8)
  deriving DecidableEq, Repr

/-- The names of the directories in the root directory, but for that of the devices. -/
def systemNames : List String :=
  ["bin", "boot", "etc", "home", "lib", "media", "mnt", "opt", "proc", "root", "run", "sbin", "srv",
   "sys", "tmp", "usr", "var"]

/-- The directory that a directory is in. -/
def Place.parent : Place → Place
  | .here | .above => .above
  | .root | .devices | .system | .file _ => .root

namespace Directory

/-- What has a name in a place. -/
def lookup (d : Directory) (place : Place) (name : String) : Option Place :=
  match place with
  | .here => (d.files.lookup name).map .file
  | .root =>
    if name = "dev" then some .devices
    else if systemNames.contains name then some .system
    else none
  | .devices => if name = "null" then some (.file []) else none
  | .above | .system | .file _ => none

/-- Follows one part of a path. -/
def follow (d : Directory) (place : Place) (part : List Char) : Except FileError Place :=
  match place, String.ofList part with
  | .file _, _ => .error .notADirectory
  | place, "" | place, "." => .ok place
  | place, ".." => .ok place.parent
  | place, name =>
    if maxNameSize < name.utf8ByteSize then .error .nameTooLong
    else
      match d.lookup place name with
      | some place => .ok place
      | none => .error .notFound

/-- The bytes of the file at a path. -/
def read (d : Directory) (path : String) : Except FileError (List UInt8) := do
  if path.isEmpty then throw .notFound
  if maxPathSize < path.utf8ByteSize then throw .nameTooLong
  let start : Place := if path.toList.head? = some '/' then .root else .here
  match ← (Text.split '/' path.toList).foldlM d.follow start with
  | .file bytes => return bytes
  | .here | .above | .root | .devices | .system => throw .isADirectory

end Directory

end CellMachine.Cli
