import KernelControls.Association
import KernelControls.OsError
import KernelControls.Path

/-!
# File trees

A file tree maps locations to files and directories, and has a working directory from
which relative paths start.  Operations take a path as text, walk the tree, and answer
with the causes of the operating system.

## Strategy

A location is the list of names from the root, so `..` steps back along it.  `enter` is
one step of a walk: whatever the next piece is, the place it starts from must be a
directory, which is why `missing/..` and `file/.` are refused.  An operation that creates
something walks to the parent and treats the last piece by itself, as `target` describes.
-/

namespace KernelControls

/-- What stands at a location. -/
inductive Entry where
  | file (content : ByteArray)
  | directory

/-- The names from the root to a file or directory. -/
abbrev Location := List String

/-- A tree of files with a working directory. -/
structure FileTree where
  workingDirectory : Location
  entries : List (Location × Entry)

namespace FileTree

/-- What stands at a location; the root is always there. -/
def entryAt? (tree : FileTree) (location : Location) : Option Entry :=
  if location = [] then some .directory else tree.entries.lookup location

/-- Set what stands at a location. -/
def set (tree : FileTree) (location : Location) (entry : Entry) : FileTree :=
  { tree with entries := Association.put location entry tree.entries }

/-! ## Walking -/

/-- The longest name, in bytes. -/
def nameLimit : Nat := 255

/-- The longest path, in bytes. -/
def pathLimit : Nat := 4095

/-- One step of a walk from a location that must be a directory. -/
def enter (tree : FileTree) (location : Location) (piece : String) : Except OsError Location :=
  match tree.entryAt? location with
  | none => .error .noEntry
  | some (.file _) => .error .notDirectory
  | some .directory =>
    if piece = "" || piece = "." then .ok location
    else if piece = ".." then .ok location.dropLast
    else if nameLimit < piece.utf8ByteSize then .error .nameTooLong
    else .ok (location ++ [piece])

/-- Steps of a walk, one after the other. -/
def walk (tree : FileTree) : Location → List String → Except OsError Location
  | location, [] => .ok location
  | location, piece :: rest =>
    match tree.enter location piece with
    | .ok next => walk tree next rest
    | .error cause => .error cause

/-- Where the walk of a path starts, for a path that can be walked at all. -/
def start (tree : FileTree) (path : String) : Except OsError Location :=
  if path.toList.contains '\x00' then .error .nulInPath
  else if path.isEmpty then .error .noEntry
  else if pathLimit < path.utf8ByteSize then .error .nameTooLong
  else if Path.isAbsolute path then .ok []
  else .ok tree.workingDirectory

/-- What a path leads to. -/
def find (tree : FileTree) (path : String) : Except OsError (Location × Entry) := do
  let location ← tree.walk (← tree.start path) (Path.pieces path)
  match tree.entryAt? location with
  | some entry => pure (location, entry)
  | none => throw .noEntry

/-! ## Looking -/

/-- Whether a path leads to anything. -/
def isPresent (tree : FileTree) (path : String) : Bool :=
  (tree.find path).isOk

/-- Whether a path leads to a file. -/
def isFile (tree : FileTree) (path : String) : Bool :=
  match tree.find path with
  | .ok (_, .file _) => true
  | _ => false

/-- Whether a path leads to a directory. -/
def isDirectory (tree : FileTree) (path : String) : Bool :=
  match tree.find path with
  | .ok (_, .directory) => true
  | _ => false

/-- The content of a file. -/
def read (tree : FileTree) (path : String) : Except OsError ByteArray := do
  match ← tree.find path with
  | (_, .file content) => pure content
  | (_, .directory) => throw .isDirectory

/-- The name of a location directly below another. -/
def childName? (parent location : Location) : Option String :=
  if location.dropLast = parent then location.getLast? else none

/-- The names in a directory. -/
def list (tree : FileTree) (path : String) : Except OsError (List String) := do
  match ← tree.find path with
  | (location, .directory) =>
    pure (tree.entries.filterMap fun entry => childName? location entry.1)
  | (_, .file _) => throw .notDirectory

/-! ## Changing -/

/-- The place that an operation would create something at: `none` where the path ends in `.`
or `..` or is the root, and beside it whether the path ends with a slash. -/
def target (tree : FileTree) (path : String) : Except OsError (Option Location × Bool) := do
  let first ← tree.start path
  let pieces := Path.pieces path
  let named := (pieces.reverse.dropWhile fun piece => piece = "").reverse
  match named.getLast? with
  | none => pure (none, true)
  | some last =>
    let place ← tree.enter (← tree.walk first named.dropLast) last
    let special := last = "." || last = ".."
    pure (if special then none else some place, pieces.getLast? == some "")

/-- Create a file or replace its content. -/
def write (tree : FileTree) (path : String) (content : ByteArray) : Except OsError FileTree := do
  match ← tree.target path with
  | (some place, false) =>
    match tree.entryAt? place with
    | some .directory => throw .isDirectory
    | _ => pure (tree.set place (.file content))
  | _ => throw .isDirectory

/-- Create one directory. -/
def makeDirectory (tree : FileTree) (path : String) : Except OsError FileTree := do
  match ← tree.target path with
  | (some place, _) =>
    match tree.entryAt? place with
    | none => pure (tree.set place .directory)
    | some _ => throw .alreadyExists
  | (none, _) => throw .alreadyExists

/-- Put a file in its place as a whole, as a renaming does.  A path that no file can have is
an invalid argument of a renaming. -/
def replace (tree : FileTree) (path : String) (content : ByteArray) :
    Except OsError FileTree :=
  match tree.target path with
  | .error .nulInPath => .error .invalidArgument
  | .error cause => .error cause
  | .ok (some place, false) =>
    match tree.entryAt? place with
    | some .directory => .error .isDirectory
    | _ => .ok (tree.set place (.file content))
  | .ok (some _, true) => .error .notDirectory
  | .ok (none, _) => .error .busy

/-- Create a directory and the directories above it, given the components of its path from
the last to the first.  Directories made before a failure stay. -/
def makeDirectories (tree : FileTree) :
    List Path.Component → Except OsError Unit × FileTree
  | [] => (.ok (), tree)
  | last :: before =>
    let path := Path.ofComponents (last :: before).reverse
    match tree.makeDirectory path with
    | .ok made => (.ok (), made)
    | .error .noEntry =>
      match makeDirectories tree before with
      | (.error cause, made) => (.error cause, made)
      | (.ok (), made) =>
        match made.makeDirectory path with
        | .ok complete => (.ok (), complete)
        | .error cause => if made.isDirectory path then (.ok (), made) else (.error cause, made)
    | .error cause => if tree.isDirectory path then (.ok (), tree) else (.error cause, tree)

/-- Remove what stands at a location and below it. -/
def remove (tree : FileTree) (location : Location) : FileTree :=
  { tree with
    entries := tree.entries.filter fun entry => !location.isPrefixOf entry.1 }

/-! ## The view by location -/

theorem entryAt?_set (tree : FileTree) (location other : Location) (entry : Entry)
    (hroot : location ≠ []) :
    (tree.set location entry).entryAt? other =
      if other = location then some entry else tree.entryAt? other := by
  simp only [entryAt?, set]
  by_cases hother : other = []
  · have hdiffers : ¬ other = location := fun hsame => hroot (hsame ▸ hother)
    rw [if_pos hother, if_neg hdiffers, if_pos hother]
  · rw [if_neg hother, if_neg hother, Association.lookup_put]

end FileTree

end KernelControls
