import Offload.Files.Basic

/-!
# File trees

A file system in memory: a directory of directories and files, each under its full path from the
root. A path is followed part by part (`FileTree.locate`); every part but the last must lead to a
directory. Two dots lead one level up, and an empty part or a single dot stays where it is. Paths
and their parts are limited in length (`FileTree.pathLimit`, `FileTree.partLimit`).
-/

namespace Offload

/-- What is at a path. -/
inductive Entry where
  /-- A directory. -/
  | directory
  /-- A file with its content. -/
  | file (content : ByteArray)

/-- A file system in memory. -/
structure FileTree where
  /-- All that there is below the root. -/
  entries : List (List String × Entry) := []
  /-- The directory from which relative paths start. -/
  base : List String := []

namespace FileTree

/-- What is at a place, given by its parts from the root. -/
def entry? (tree : FileTree) (place : List String) : Option Entry :=
  if place = [] then some .directory else tree.entries.lookup place

/-- Puts something at a place. -/
def put (tree : FileTree) (place : List String) (entry : Entry) : FileTree :=
  { tree with entries := (place, entry) :: tree.entries.filter fun old => old.1 ≠ place }

/-- The most bytes that a path may have. -/
def pathLimit : Nat := 4095

/-- The most bytes that a part of a path may have. -/
def partLimit : Nat := 255

/-- Follows the parts of a path from a place. The place it leads to need not exist. -/
def locate (tree : FileTree) (place : List String) : List String → Except FileFault (List String)
  | [] => .ok place
  | part :: parts =>
    match tree.entry? place with
    | none => .error .missing
    | some (.file _) => .error .notDirectory
    | some .directory =>
      if part = "" ∨ part = "." then tree.locate place parts
      else if part = ".." then tree.locate place.dropLast parts
      else if partLimit < part.utf8ByteSize then .error .tooLong
      else tree.locate (place ++ [part]) parts

/-- The place from which a path starts. -/
def start (tree : FileTree) (path : String) : List String :=
  if Files.isAbsolute path then [] else tree.base

/-- The place to which the parts of a path lead from where it starts. -/
def follow (tree : FileTree) (path : String) (parts : List String) :
    Except FileFault (List String) :=
  if pathLimit < path.utf8ByteSize then .error .tooLong
  else tree.locate (tree.start path) parts

/-- The place to which a path leads. The empty path leads nowhere. -/
def find (tree : FileTree) (path : String) : Except FileFault (List String) :=
  if path = "" then .error .missing
  else tree.follow path (path.splitOn "/")

/-- What is at the end of a path. -/
def at? (tree : FileTree) (path : String) : Except FileFault Entry := do
  match tree.entry? (← tree.find path) with
  | some entry => .ok entry
  | none => .error .missing

/-- Reads the text of a file. -/
def read (tree : FileTree) (path : String) : Except FileFault String := do
  match ← tree.at? path with
  | .directory => .error .isDirectory
  | .file content =>
    match String.fromUTF8? content with
    | some text => .ok text
    | none => .error .notText

/-- There is a directory at the end of a path. -/
def isDirectory (tree : FileTree) (path : String) : Bool :=
  match tree.at? path with
  | .ok .directory => true
  | _ => false

/-- Makes a directory. Slashes at the end of the path do not matter. -/
def makeDirectory (tree : FileTree) (path : String) : Except FileFault FileTree := do
  let parts := ((path.splitOn "/").reverse.dropWhile (· = "")).reverse
  let place ← tree.follow path parts
  match tree.entry? place with
  | none => .ok (tree.put place .directory)
  | some _ => .error .present

/-- Makes or empties a file. -/
def create (tree : FileTree) (path : String) : Except FileFault FileTree := do
  let place ← tree.find path
  match tree.entry? place with
  | some .directory => .error .isDirectory
  | _ => .ok (tree.put place (.file .empty))

/-- Writes a text to the end of a file. -/
def append (tree : FileTree) (path text : String) : Except FileFault FileTree := do
  let place ← tree.find path
  match tree.entry? place with
  | none => .error .missing
  | some .directory => .error .isDirectory
  | some (.file content) => .ok (tree.put place (.file (content ++ text.toUTF8)))

/-- The outcome of a change and the tree after it. A failed change leaves the tree as it is. -/
def settled (tree : FileTree) : Except FileFault FileTree → Except FileFault Unit × FileTree
  | .ok tree => (.ok (), tree)
  | .error fault => (.error fault, tree)

instance {m : Type → Type} [Monad m] : Files m FileTree where
  read path tree := pure (tree.read path, tree)
  isDirectory path tree := pure (tree.isDirectory path, tree)
  makeDirectory path tree := pure (tree.settled (tree.makeDirectory path))
  create path tree := pure (tree.settled (tree.create path))
  append path text tree := pure (tree.settled (tree.append path text))

end FileTree

end Offload
