import KernelControls.FileTree

/-!
# File systems

The library reads and writes files through this interface.  A file tree is one
implementation, on which everything can be computed and proved; the command line runs on
the files of the machine.
-/

namespace KernelControls

/-- Why a file could not be replaced as a whole: the new content could not be prepared beside
it, or it could not be put in its place. -/
inductive ReplaceError where
  | preparing (cause : OsError)
  | placing (cause : OsError)
  deriving DecidableEq, Repr

/-- Access to files by path. -/
class FileSystem (m : Type → Type) where
  /-- Whether a path leads to anything. -/
  isPresent : String → m Bool
  /-- Whether a path leads to a file. -/
  isFile : String → m Bool
  /-- The content of a file. -/
  read : String → m (Except OsError ByteArray)
  /-- The names in a directory, in no particular order. -/
  list : String → m (Except OsError (List String))
  /-- Create a file in an existing directory, or replace its content. -/
  write : String → String → m (Except OsError Unit)
  /-- Create a directory and the directories above it. -/
  makeDirectories : String → m (Except OsError Unit)
  /-- Put a new file in the place of an old one, as a whole or not at all, preparing it in
  the given directory. -/
  replace : String → String → String → m (Except ReplaceError Unit)

namespace FileSystem

variable {m : Type → Type} [Monad m] [FileSystem m]

/-- The text of a file. -/
def readText (path : String) : m (Except OsError String) := do
  match ← read path with
  | .ok content =>
    match String.fromUTF8? content with
    | some text => pure (.ok text)
    | none => pure (.error .notUtf8)
  | .error cause => pure (.error cause)

end FileSystem

/-! ## File trees are file systems -/

namespace FileTree

/-- The result of a change, and the tree after it. -/
def settle (tree : FileTree) : Except OsError FileTree → Except OsError Unit × FileTree
  | .ok changed => (.ok (), changed)
  | .error cause => (.error cause, tree)

/-- The bytes that the name of a temporary file and the slash before it take. -/
def temporaryLength : Nat := 11

/-- The path of a directory from the root, as text. -/
def fromRoot (tree : FileTree) (directory : String) : String :=
  if Path.isAbsolute directory then directory
  else Path.join ("/" ++ String.intercalate "/" tree.workingDirectory) directory

/-- Prepare a file in a directory and put it in the place of another.  The temporary file has a
path of its own, from the root, which may be too long where the others are not. -/
def replaceFrom (tree : FileTree) (directory path text : String) :
    Except ReplaceError Unit × FileTree :=
  match tree.find directory with
  | .error cause => (.error (.preparing cause), tree)
  | .ok (_, .file _) => (.error (.preparing .notDirectory), tree)
  | .ok (_, .directory) =>
    if pathLimit < (tree.fromRoot directory).utf8ByteSize + temporaryLength then
      (.error (.preparing .nameTooLong), tree)
    else
      match tree.replace path text.toUTF8 with
      | .ok changed => (.ok (), changed)
      | .error cause => (.error (.placing cause), tree)

instance : FileSystem (StateM FileTree) where
  isPresent path := fun tree => (tree.isPresent path, tree)
  isFile path := fun tree => (tree.isFile path, tree)
  read path := fun tree => (tree.read path, tree)
  list path := fun tree => (tree.list path, tree)
  write path text := fun tree => tree.settle (tree.write path text.toUTF8)
  makeDirectories path := fun tree => tree.makeDirectories (Path.components path).reverse
  replace directory path text := fun tree => tree.replaceFrom directory path text

end FileTree

end KernelControls
