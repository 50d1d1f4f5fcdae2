import Switchboard.Error
import Switchboard.KeyMap
import Switchboard.Text.Utf8
/-!
# Setting up the log

Verbosity levels and where log lines go. There is one log per process, so a second set-up fails,
but a log file that it names is opened first, and stays. Files are opened for appending in a tree
of directories, with the failures of a Unix file system.
-/

namespace Switchboard

namespace Logging

/-- The level for a count of verbosity flags. -/
def levelFor (verbosity : UInt8) : String :=
  if verbosity = 0 then "error"
  else if verbosity = 1 then "warn"
  else if verbosity = 2 then "info"
  else if verbosity = 3 then "debug"
  else "trace"

inductive Entry where
  | file (content : String)
  | directory
  deriving DecidableEq, Repr

/-- The entries below one directory, each under its path of names. -/
abbrev Tree := List (List String × Entry)

/-- Why a path cannot be opened. -/
inductive PathFault where
  | notFound
  | notDirectory
  | isDirectory
  | nameTooLong
  | containsNul
  deriving DecidableEq, Repr

/-- The wording of a fault, with the number of the system error where there is one. -/
def PathFault.message : PathFault → String
  | notFound => "No such file or directory (os error 2)"
  | notDirectory => "Not a directory (os error 20)"
  | isDirectory => "Is a directory (os error 21)"
  | nameTooLong => "File name too long (os error 36)"
  | containsNul => "file name contained an unexpected NUL byte"

/-- The longest name of an entry, in bytes. -/
def maxNameLength : Nat := 255

/-- The longest path, in bytes. -/
def maxPathLength : Nat := 4095

namespace Tree

/-- The entry at a path. The empty path is the directory itself. -/
def find? (tree : Tree) (path : List String) : Option Entry :=
  if path.isEmpty then some .directory else tree.lookup path

/-- Put a file at a path. -/
def write (tree : Tree) (path : List String) (content : String) : Tree :=
  (path, .file content) :: tree.filter (·.1 ≠ path)

/-- Follow one name from a directory. -/
def descend (tree : Tree) (path : List String) (name : String) :
    Except PathFault (List String) :=
  match tree.find? path with
  | none => .error .notFound
  | some (.file _) => .error .notDirectory
  | some .directory =>
    if name = "." then .ok path
    else if name = ".." then .ok path.dropLast
    else if maxNameLength < name.utf8ByteSize then .error .nameTooLong
    else .ok (path ++ [name])

/-- Follow names from the directory itself. -/
def follow (tree : Tree) (names : List String) : Except PathFault (List String) :=
  names.foldlM tree.descend []

/-- The names in a path text. -/
def namesOf (path : String) : List String := (path.splitOn "/").filter (· ≠ "")

/-- The place that a path text names. Only a directory can stand before a slash, so a path that ends
in one leads to the directory that holds its last name. -/
def place (tree : Tree) (path : String) : Except PathFault (List String) := do
  if path.toList.contains '\x00' then throw .containsNul
  if maxPathLength < path.utf8ByteSize then throw .nameTooLong
  let names := namesOf path
  tree.follow (if path.endsWith "/" then names.dropLast ++ ["."] else names)

/-- Put a file at the place that a path names. A tree without such a place, or with a directory
there, stays as it is. -/
def putFile (tree : Tree) (path : String) (content : String) : Tree :=
  match tree.place path with
  | .error _ => tree
  | .ok place =>
    match tree.find? place with
    | some .directory => tree
    | _ => tree.write place content

/-- Open a file for appending, and create it if it is not there: the tree after it. -/
def openForAppend (tree : Tree) (path : String) : Except PathFault Tree := do
  let place ← tree.place path
  match tree.find? place with
  | some .directory => throw .isDirectory
  | some (.file _) => return tree
  | none => return tree.write place ""

def read? (tree : Tree) (path : String) : Option String :=
  match tree.place path with
  | .error _ => none
  | .ok place =>
    match tree.find? place with
    | some (.file content) => some content
    | _ => none

end Tree

/-- What a process says that already has a log. -/
def alreadySet : Error := .system "a global default trace dispatcher has already been set"

/-- Set up the log of a process that already has one. Only the file that is named matters: neither
the level nor the format of the lines is looked at any more. -/
def setUpAgain (tree : Tree) (file : Option String) : Except Error Unit × Tree :=
  match file with
  | none => (.error alreadySet, tree)
  | some path =>
    match tree.openForAppend path with
    | .error fault => (.error (.system fault.message), tree)
    | .ok tree => (.error alreadySet, tree)

end Logging

end Switchboard
