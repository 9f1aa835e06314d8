/-
# File trees

Files in memory, around a working directory.  A path is followed from that directory,
or from the root if a slash is in front, name by name: a single dot stays where it
is, two dots step up, and every name but the last must be that of a directory.

The directories above the working directory and the root hold nothing but what is
written there.
-/

import BooleanRetrieval.Storage
import BooleanRetrieval.Text.Split
import Std.Data.ExtTreeMap

namespace BooleanRetrieval

/-- What a place in a file tree holds. -/
inductive FileNode where
  | file (content : ByteArray)
  | directory

/-- The names that lead to a file or a directory from the working directory.  Two dots
may be in front, once for each directory above that one, or a slash, for the root. -/
abbrev Place := List String

namespace Place

/-- The directory above a directory; the root is above itself. -/
def parent (place : Place) : Place :=
  match place.getLast? with
  | none => [".."]
  | some name =>
    if name = ".." then place ++ [".."] else if name = "/" then place else place.dropLast

/-- Whether a place is below the working directory. -/
def isInside (place : Place) : Bool :=
  !([some "..", some "/"].contains place.head?)

/-- Where a name leads from a directory. -/
def step (place : Place) (name : String) : Place :=
  if name = "." then place else if name = ".." then place.parent else place ++ [name]

end Place

/-- What is at the places that hold something. -/
structure FileTree where
  nodes : Std.ExtTreeMap Place FileNode

namespace FileTree

/-- The tree without files. -/
def empty : FileTree := ⟨∅⟩

/-- The names in a path. -/
def components (path : String) : List String :=
  ((Text.piecesBetween (· = '/') path.toList).filter (!·.isEmpty)).map String.ofList

/-- The directory from which a path is followed. -/
def startOf (path : String) : Place :=
  if path.toList.head? = some '/' then ["/"] else []

/-- The place that a path leads to if all directories on its way are there. -/
def placeOf (path : String) : Place :=
  (components path).foldl Place.step (startOf path)

/-- The most bytes of a name. -/
def maxNameLength : Nat := 255

/-- The number of bytes from which on a path is too long. -/
def pathLimit : Nat := 4096

/-- What is under a name in a directory, if anything is. -/
def lookUp (tree : FileTree) (directory : Place) (name : String) :
    Except FileError (Option FileNode) :=
  if maxNameLength < name.utf8ByteSize then .error .nameTooLong
  else .ok tree.nodes[directory ++ [name]]?

/-- Follow the names of directories from a directory. -/
def walk (tree : FileTree) (directory : Place) : List String → Except FileError Place
  | [] => .ok directory
  | name :: rest =>
    if name = "." || name = ".." then tree.walk (directory.step name) rest
    else do
      match ← tree.lookUp directory name with
      | some .directory => tree.walk (directory.step name) rest
      | some (.file _) => .error .notDirectory
      | none => .error .notFound

/-- How a path ends. -/
inductive Ending where
  /-- In a directory, by a dot, two dots or the slash of the root. -/
  | directory
  /-- With a name in a directory that is there. -/
  | entry (directory : Place) (name : String)

/-- Follow a path to its last name. -/
def locate (tree : FileTree) (path : String) : Except FileError Ending :=
  if path.toList.contains '\x00' then .error .nulInPath
  else if path.isEmpty then .error .notFound
  else if pathLimit ≤ path.utf8ByteSize then .error .nameTooLong
  else
    let names := components path
    match names.getLast? with
    | none => .ok .directory
    | some last =>
      if last = "." || last = ".." then
        (tree.walk (startOf path) names).map fun _ => .directory
      else (tree.walk (startOf path) names.dropLast).map (.entry · last)

/-- Whether a path ends in a slash and so asks for a directory. -/
def asksForDirectory (path : String) : Bool :=
  path.toList.getLast? = some '/'

/-- The content of a file. -/
def read (tree : FileTree) (path : String) : Except FileError ByteArray := do
  match ← tree.locate path with
  | .directory => .error .isDirectory
  | .entry directory name =>
    match ← tree.lookUp directory name with
    | some .directory => .error .isDirectory
    | some (.file content) =>
      if asksForDirectory path then .error .notDirectory else .ok content
    | none => .error .notFound

/-- The tree with a file of the given content.  A path that asks for a directory is
turned down before its last name is looked up. -/
def write (tree : FileTree) (path : String) (content : ByteArray) : Except FileError FileTree := do
  match ← tree.locate path with
  | .directory => .error .isDirectory
  | .entry directory name =>
    if asksForDirectory path then .error .isDirectory
    else
      match ← tree.lookUp directory name with
      | some .directory => .error .isDirectory
      | some (.file _) | none =>
        .ok ⟨tree.nodes.insert (directory ++ [name]) (.file content)⟩

/-- The tree with a node at a place, and with all directories above it. -/
def plant (tree : FileTree) (place : Place) (node : FileNode) : FileTree :=
  let parents := (List.range' 1 (place.length - 1)).map place.take
  ⟨(parents.foldl (fun nodes above => nodes.insert above .directory) tree.nodes).insert place node⟩

/-- The tree without the node at a place. -/
def erase (tree : FileTree) (place : Place) : FileTree :=
  ⟨tree.nodes.erase place⟩

/-- The content of the file at a place. -/
def content? (tree : FileTree) (place : Place) : Option ByteArray :=
  match tree.nodes[place]? with
  | some (.file content) => some content
  | _ => none

/-- Whether two trees hold the same file, or none, at a place. -/
def agreeAt (first second : FileTree) (place : Place) : Bool :=
  match first.content? place, second.content? place with
  | some one, some other => one.data = other.data
  | none, none => true
  | _, _ => false

/-- The places below the working directory at which two trees hold different files, or
only one holds a file, with the content in the second tree. -/
def changes (before after : FileTree) : List (Place × Option ByteArray) :=
  let places := (before.nodes ∪ after.nodes).keys.filter (·.isInside)
  (places.filter (!agreeAt before after ·)).map fun place => (place, after.content? place)

end FileTree

/-- Computations on a file tree have access to its files. -/
instance : Storage (StateM FileTree) where
  read path := ExceptT.mk fun tree => (tree.read path, tree)
  write path content := ExceptT.mk fun tree =>
    match tree.write path content with
    | .ok tree => (.ok (), tree)
    | .error cause => (.error cause, tree)

end BooleanRetrieval
