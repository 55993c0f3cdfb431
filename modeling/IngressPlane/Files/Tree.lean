import IngressPlane.Table
import IngressPlane.Text.Search
import IngressPlane.Text.Utf8

/-!
The files below one directory. A file can be written where its directory exists; paths that lead out
of the tree, and names longer than a directory can hold, cannot be written.
-/
namespace IngressPlane

open Text

structure FileTree where
  /-- The directories below the root, each by the names that lead to it. -/
  directories : List (List String) := []
  /-- The contents of the files by their paths. -/
  files : Table (List UInt8) := .empty

namespace FileTree

def nameLimit : Nat := 255

def pathLimit : Nat := 4095

def names (path : String) : List String := (pieces '/' path.toList).map String.ofList

/-- A tree of directories without files. Each directory comes with those above it. -/
def ofDirectories (paths : List String) : FileTree :=
  { directories := paths.flatMap fun path =>
      let place := (names path).filter fun name => name ≠ "" && name ≠ "."
      (List.range place.length).map fun above => place.take (above + 1) }

variable (t : FileTree)

def isDirectory (place : List String) : Bool := place.isEmpty || t.directories.contains place

def enter? (place : List String) (name : String) : Option (List String) :=
  if name = "" || name = "." then some place
  else if name = ".." then if place.isEmpty then none else some place.dropLast
  else if t.isDirectory (place ++ [name]) then some (place ++ [name])
  else none

def isFileName (name : String) : Bool :=
  name ≠ "" && name ≠ "." && name ≠ ".." && name.utf8ByteSize ≤ nameLimit

/-- The directory that the names before the last one lead to, and the last one. -/
def locate? (place : List String) : List String → Option (List String × String)
  | [] => none
  | [name] => if isFileName name then some (place, name) else none
  | name :: rest => do locate? (← t.enter? place name) rest

/-- The place of a file that can be written under this path. -/
def place? (path : String) : Option String :=
  if path.toList.contains '\x00' || pathLimit < path.utf8ByteSize || hasPrefix "/" path then none
  else do
    let (place, name) ← t.locate? [] (names path)
    if t.isDirectory (place ++ [name]) then none else some (join "/" (place ++ [name]))

def read? (path : String) : Option (List UInt8) := (t.place? path).bind t.files.get?

def write? (path : String) (contents : List UInt8) : Option FileTree :=
  (t.place? path).map fun place => { t with files := t.files.insert place contents }

/-- Writes files in order, up to the first one that cannot be written; its path is returned. -/
def writeAll (t : FileTree) : List (String × List UInt8) → FileTree × Option String
  | [] => (t, none)
  | (path, contents) :: rest =>
    match t.write? path contents with
    | some t => t.writeAll rest
    | none => (t, some path)

end FileTree
end IngressPlane
