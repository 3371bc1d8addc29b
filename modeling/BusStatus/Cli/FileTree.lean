import BusStatus.Text.Radix
import BusStatus.Text.Split

/-!
# File trees

Where a file can be created. A tree is known by its directories and by some of its files; a path names
a place in it, from the root or from the directory that the program works in. Every directory on the
way has to exist, and the place itself must not be a directory.
-/

namespace BusStatus.Cli

/-- An error of the operating system, which is told in one line. -/
structure OsError where
  description : String
  code : Nat
  newline_not_mem : '\n' ∉ description.toList := by decide
deriving DecidableEq, Repr

namespace OsError

/-- The error of which the system says this much in its first line. -/
def ofText (text : String) (code : Nat) : OsError where
  description := String.ofList (text.toList.takeWhile (· != '\n'))
  code := code
  newline_not_mem := by
    rw [String.toList_ofList]
    intro hmem
    cases List.all_eq_true.mp List.all_takeWhile '\n' hmem

/-- How an error is told to the user. -/
def message (e : OsError) : String :=
  e.description ++ " (os error " ++ Text.decimal e.code ++ ")"

/-- A directory on the way does not exist. -/
def missing : OsError where
  description := "No such file or directory"
  code := 2

/-- A place on the way is a file. -/
def notDirectory : OsError where
  description := "Not a directory"
  code := 20

def isDirectory : OsError where
  description := "Is a directory"
  code := 21

/-- A path, or a name on the way, is longer than it may be. -/
def nameTooLong : OsError where
  description := "File name too long"
  code := 36

end OsError

/-- What stands at the places of a file system. -/
structure FileTree where
  /-- The names on the way from the root, for every directory. -/
  directories : List (List String)
  /-- The names on the way from the root, for every file that is known to exist. -/
  files : List (List String) := []
  here : List String
deriving DecidableEq, Repr

namespace FileTree

def nameLimit : Nat := 255

def pathLimit : Nat := 4095

/-- The names between the slashes of a path; empty ones stand for nothing. -/
def names (path : String) : List String :=
  (Text.split '/' path.toList).map String.ofList

/-- The place to which a name leads from a directory. -/
def follow (place : List String) (name : String) : List String :=
  if name = "" ∨ name = "." then place
  else if name = ".." then place.dropLast
  else place ++ [name]

/-- Walks from a directory through directories. -/
def walk (tree : FileTree) (place : List String) : List String → Except OsError (List String)
  | [] => .ok place
  | name :: names =>
      if nameLimit < name.utf8ByteSize then .error .nameTooLong
      else if follow place name ∈ tree.directories then tree.walk (follow place name) names
      else if follow place name ∈ tree.files then .error .notDirectory
      else .error .missing

def origin (tree : FileTree) (path : String) : List String :=
  if path.toList.head? = some '/' then [] else tree.here

/-- The place that a path names when the file it names can be created. -/
def create (tree : FileTree) (path : String) : Except OsError (List String) := do
  if pathLimit < path.utf8ByteSize then throw .nameTooLong
  let names := names path
  -- A path that ends in a slash names a directory, whatever stands before the slashes.
  let onTheWay := (names.reverse.dropWhile (· == "")).reverse.dropLast
  let directory ← tree.walk (tree.origin path) onTheWay
  let name := names.getLastD ""
  if name = "" ∨ name = "." ∨ name = ".." then .error .isDirectory
  else if nameLimit < name.utf8ByteSize then .error .nameTooLong
  else if directory ++ [name] ∈ tree.directories then .error .isDirectory
  else .ok (directory ++ [name])

/-- Why the file that a path names cannot be created, if it cannot. -/
def refusal (tree : FileTree) (path : String) : Option OsError :=
  match tree.create path with
  | .ok _ => none
  | .error e => some e

end FileTree

end BusStatus.Cli
