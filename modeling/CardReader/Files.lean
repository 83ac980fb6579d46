import CardReader.Text.LogText
import CardReader.Text.Quoted

/-!
# Files

The files as they are seen from one directory.  A path is followed name by name; directories exist
where files lie below them, and above the directory up to the root.  Of the rest of the system only
its main directories and the null device are known.
-/

namespace CardReader

/-- Why a file could not be read or written. -/
inductive FileFault where
  /-- There is no such file, or no directory to put it in. -/
  | notFound
  /-- Something on the way is a file. -/
  | notDirectory
  /-- The path leads to a directory. -/
  | isDirectory
  /-- A name or the whole path is too long. -/
  | nameTooLong
  /-- The path holds a null character. -/
  | nullInName
  /-- The contents are not UTF-8 text. -/
  | notText
  /-- The operating system reports something else. -/
  | other (report : String)
  deriving DecidableEq

namespace FileFault

/-- The number, the kind and the wording of a fault that the operating system reports. -/
def system? : FileFault → Option (Nat × String × String)
  | notFound => some (2, "NotFound", "No such file or directory")
  | notDirectory => some (20, "NotADirectory", "Not a directory")
  | isDirectory => some (21, "IsADirectory", "Is a directory")
  | nameTooLong => some (36, "InvalidFilename", "File name too long")
  | _ => none

/-- The kind and the wording of a fault that is noticed before or after the operating system. -/
def own : FileFault → String × String
  | nullInName => ("InvalidInput", "file name contained an unexpected NUL byte")
  | notText => ("InvalidData", "stream did not contain valid UTF-8")
  | other report => ("Other", report)
  | _ => ("Other", "unknown")

/-- The wording of a fault. -/
def message (fault : FileFault) : String :=
  match fault.system? with
  | some (code, _, wording) => wording ++ " (os error " ++ toString code ++ ")"
  | none => fault.own.2

/-- The fault in a line of a log. -/
def describe (fault : FileFault) : String :=
  match fault.system? with
  | some (code, kind, wording) =>
    LogText.record "Os"
      [("code", toString code), ("kind", kind), ("message", Quoted.quote wording)]
  | none =>
    LogText.record "Error" [("kind", fault.own.1), ("message", Quoted.quote fault.own.2)]

end FileFault

/-- A directory with its files. -/
structure Files where
  /-- The names that lead to each file, and its contents. -/
  entries : List (List String × ByteArray) := []

namespace Files

/-! ## Places -/

/-- The name of the root, with which the names that lead to a place outside may start. -/
def root : String := "/"

/-- The names that lead to a place inside the directory or below it. -/
def isInside (names : List String) : Bool :=
  match names with
  | [] => true
  | name :: _ => name ≠ ".." ∧ name ≠ root

/-- The directory that holds another one; the root holds itself. -/
def above (names : List String) : List String :=
  match names.getLast? with
  | none => [".."]
  | some name =>
    if name = ".." then names ++ [".."] else if name = root then names else names.dropLast

/-- Directories below the root that every system has. -/
def systemDirectories : List String :=
  ["dev", "etc", "home", "proc", "root", "sys", "tmp", "usr", "var"]

/-- The device that is always empty and takes everything. -/
def nullDevice : List String := [root, "dev", "null"]

/-- Where a path leads. -/
inductive Spot where
  /-- To a directory. -/
  | directory (names : List String)
  /-- To a file. -/
  | file (names : List String) (contents : ByteArray)
  /-- To a name that is not in use. -/
  | vacant (names : List String)

/-- Bytes in the longest name. -/
def longestName : Nat := 255

/-- Bytes in the longest path. -/
def longestPath : Nat := 4095

/-- Whether names lead to a directory: one above, one of the system, or one below which a file
lies. -/
def isDirectory (files : Files) (names : List String) : Bool :=
  names.all (· = "..") || names = [root] || systemDirectories.any (fun name => names = [root, name]) ||
    files.entries.any fun (file, _) => decide (names.length < file.length) && names.isPrefixOf file

/-- What stands under names. -/
def look (files : Files) (names : List String) : Spot :=
  if names = nullDevice then .file names .empty
  else
    match files.entries.lookup names with
    | some contents => .file names contents
    | none => if files.isDirectory names then .directory names else .vacant names

/-! ## Paths -/

/-- Follows names from a spot on. -/
def walk (files : Files) : Spot → List String → Except FileFault Spot
  | spot, [] => .ok spot
  | .file _ _, _ :: _ => .error .notDirectory
  | .vacant names, name :: rest =>
    if name.isEmpty then files.walk (.vacant names) rest else .error .notFound
  | .directory names, name :: rest =>
    if name.isEmpty ∨ name = "." then files.walk (.directory names) rest
    else if name = ".." then files.walk (.directory (above names)) rest
    else if longestName < name.utf8ByteSize then .error .nameTooLong
    else files.walk (files.look (names ++ [name])) rest

/-- The names in a path, an empty one where two slashes meet. -/
def names (path : String) : List String := (path.toList.splitOn '/').map String.ofList

/-- Where the names of a path lead, once they have been adjusted to what is to be done there. -/
def locate (files : Files) (path : String) (adjust : List String → List String) :
    Except FileFault Spot :=
  if path.toList.contains '\x00' then .error .nullInName
  else if path.isEmpty then .error .notFound
  else if longestPath < path.utf8ByteSize then .error .nameTooLong
  else
    let start := if path.toList.head? = some '/' then [root] else []
    files.walk (.directory start) (adjust (names path))

/-- The names that matter when a file is to be made.  A slash at the end says that the last name is
that of a directory, so that only the way to it is followed. -/
def holder (names : List String) : List String :=
  match names.reverse with
  | "" :: before =>
    match before.dropWhile String.isEmpty with
    | [] => names
    | name :: way => if name = "." ∨ name = ".." then names else way.reverse ++ ["."]
  | _ => names

/-! ## Reading and writing -/

/-- Reads a file. -/
def read (files : Files) (path : String) : Except FileFault ByteArray := do
  match ← files.locate path id with
  | .file _ contents => return contents
  | .directory _ => throw .isDirectory
  | .vacant _ => throw .notFound

/-- Gives names new contents. -/
def put (names : List String) (contents : ByteArray) :
    List (List String × ByteArray) → List (List String × ByteArray)
  | [] => [(names, contents)]
  | (other, old) :: rest =>
    if other = names then (names, contents) :: rest else (other, old) :: put names contents rest

/-- Writes a file, which may be new. -/
def write (files : Files) (path : String) (contents : ByteArray) : Except FileFault Files := do
  match ← files.locate path holder with
  | .file names _ | .vacant names =>
    return if names = nullDevice then files else ⟨put names contents files.entries⟩
  | .directory _ => throw .isDirectory

end Files

end CardReader
