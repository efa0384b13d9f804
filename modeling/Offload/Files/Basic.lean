/-!
# Files

What the program needs of a file system, as operations on a state in some monad: reading a text,
making a directory, and creating and extending files. `FileFault` names the reasons for which one
of these may fail. Paths are texts whose parts are separated by slashes.
-/

namespace Offload

/-- Why an operation on files failed. -/
inductive FileFault where
  /-- There is nothing at that path. -/
  | missing
  /-- There is something at that path already. -/
  | present
  /-- A part of the path is no directory. -/
  | notDirectory
  /-- There is a directory at that path. -/
  | isDirectory
  /-- The path or a part of it is too long. -/
  | tooLong
  /-- The content is no text. -/
  | notText
  /-- Anything else. -/
  | other (reason : String)
  deriving DecidableEq, Repr

/-- What the user is told. -/
def FileFault.message : FileFault → String
  | missing => "No such file or directory (os error 2)"
  | present => "File exists (os error 17)"
  | notDirectory => "Not a directory (os error 20)"
  | isDirectory => "Is a directory (os error 21)"
  | tooLong => "File name too long (os error 36)"
  | notText => "stream did not contain valid UTF-8"
  | other reason => reason

/-- A file system with a state, used in the monad `m`. -/
class Files (m : Type → Type) (φ : Type) where
  /-- Reads the whole text of a file. -/
  read : (path : String) → φ → m (Except FileFault String × φ)
  /-- Whether there is a directory. -/
  isDirectory : (path : String) → φ → m (Bool × φ)
  /-- Makes a directory in one that is there. -/
  makeDirectory : (path : String) → φ → m (Except FileFault Unit × φ)
  /-- Makes an empty file, or empties the one that is there. -/
  create : (path : String) → φ → m (Except FileFault Unit × φ)
  /-- Writes a text to the end of a file. -/
  append : (path : String) → (text : String) → φ → m (Except FileFault Unit × φ)

namespace Files

/-- The path of a file in a directory. -/
def pathWithin (directory file : String) : String :=
  if directory.isEmpty || directory.endsWith "/" then directory ++ file
  else directory ++ "/" ++ file

/-- The path starts at the root. -/
def isAbsolute (path : String) : Bool :=
  path.startsWith "/"

/-- The parts of a path that lead on: neither empty nor a single dot. -/
def parts (path : String) : List String :=
  (path.splitOn "/").filter fun part => part ≠ "" ∧ part ≠ "."

/-- The path with the given parts. -/
def pathOf (absolute : Bool) (parts : List String) : String :=
  (if absolute then "/" else "") ++ "/".intercalate parts

variable {m : Type → Type} [Monad m] {φ : Type} [Files m φ]

/-- Makes a directory unless it is there already. -/
def ensureDirectory (path : String) (files : φ) : m (Except FileFault Unit × φ) := do
  match ← makeDirectory path files with
  | (.ok (), files) => return (.ok (), files)
  | (.error fault, files) =>
    let (there, files) ← isDirectory path files
    return (if there then .ok () else .error fault, files)

/-- Makes a directory. Where it would lie in one that is missing, something is done before and the
    directory is tried once more. -/
def ensureAfter (path : String) (before : φ → m (Except FileFault Unit × φ)) (files : φ) :
    m (Except FileFault Unit × φ) := do
  match ← ensureDirectory path files with
  | (.error .missing, files) =>
    match ← before files with
    | (.ok (), files) => ensureDirectory path files
    | (.error fault, files) => return (.error fault, files)
  | (outcome, files) => return (outcome, files)

/-- Makes the directory with the given parts, the last one first, and those it lies in. -/
def ensureAll (absolute : Bool) : List String → φ → m (Except FileFault Unit × φ)
  | [] => fun files => pure (.ok (), files)
  | part :: before =>
    ensureAfter (pathOf absolute (part :: before).reverse) (ensureAll absolute before)

/-- Makes a directory and those it lies in. The empty path needs none. -/
def makeDirectories (path : String) (files : φ) : m (Except FileFault Unit × φ) :=
  if path = "" then pure (.ok (), files)
  else ensureAfter path (ensureAll (isAbsolute path) ((parts path).reverse.drop 1)) files

end Files

end Offload
