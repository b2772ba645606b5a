import KernelControls.FileSystem
import KernelControls.Node
import KernelControls.PreferenceStore
import KernelControls.Preferences.Document

/-!
# Sites

A site says where an engine on a file system finds its nodes and its preferences: the
nodes below a root directory, the preferences in one file.  The file is read once for each
opening of the store, at the first request, and is put in place anew as a whole with every
value that is saved.

## Strategy

The site is a state beside the file system: `StateT Site m` gives access to nodes and
preferences for every file system `m`.  What an opening knows changes only when the file
was read or put in place, so it never runs ahead of the file.
-/

namespace KernelControls

/-! ## Node files -/

namespace NodeFile

variable {m : Type → Type} [Monad m] [FileSystem m]

/-- What is answered for the node at a kernel path, when its file was read. -/
def answer (path : String) : Except OsError String → Except NodeError String
  | .ok text => .ok text
  | .error .noEntry => .error (.notFound path)
  | .error cause => .error (.unreadable path cause)

@[simp] theorem answer_eq_ok {path text : String} {result : Except OsError String} :
    answer path result = .ok text ↔ result = .ok text := by
  cases result with
  | ok seen => simp [answer]
  | error cause => cases cause <;> simp [answer]

/-- Whether the node at a kernel path is there, below a root. -/
def isPresent (root path : String) : m Bool :=
  FileSystem.isPresent (Path.resolve root path)

/-- Read the node at a kernel path. -/
def read (root path : String) : m (Except NodeError String) := do
  let result ← FileSystem.readText (Path.resolve root path)
  pure (answer path result)

/-- Write the node at a kernel path. -/
def write (root path text : String) : m (Except NodeError Unit) := do
  let result ← FileSystem.write (Path.resolve root path) text
  pure (result.mapError (.unwritable path))

end NodeFile

/-! ## The preference file -/

/-- Why a preference file could not be used. -/
inductive FileTrouble where
  | io (cause : OsError)
  | malformed
  deriving DecidableEq, Repr

namespace PreferenceFile

variable {m : Type → Type} [Monad m] [FileSystem m]

/-- Read the preferences of a file; a file that is not there holds none. -/
def read (path : String) : m (Except FileTrouble Preferences) := do
  if ← FileSystem.isPresent path then
    match ← FileSystem.readText path with
    | .error cause => pure (.error (.io cause))
    | .ok text =>
      match Preferences.ofDocument? text with
      | some preferences => pure (.ok preferences)
      | none => pure (.error .malformed)
  else pure (.ok .empty)

/-- The directory in which a file is prepared: its own. -/
def directory (path : String) : String :=
  match Path.parent? path with
  | some parent => if parent.isEmpty then "." else parent
  | none => "."

/-- Put a file with the given preferences in place. -/
def write (path : String) (preferences : Preferences) : m (Except PreferenceError Unit) := do
  match ← FileSystem.makeDirectories (directory path) with
  | .error cause => pure (.error (.io cause))
  | .ok () =>
    match ← FileSystem.replace (directory path) path preferences.document with
    | .ok () => pure (.ok ())
    | .error (.preparing cause) => pure (.error (.io cause))
    | .error (.placing cause) => pure (.error (.notPlaced path cause))

end PreferenceFile

/-! ## Sites -/

/-- What an opening of the preference store knows of the file, once it was read. -/
abbrev Knowledge := Option (Except FileTrouble Preferences)

/-- Where nodes and preferences are, and what each opening of the store knows. -/
structure Site where
  nodeRoot : String
  preferencePath : String
  openings : List Knowledge

namespace Site

/-- A site whose preference store is opened once. -/
def start (nodeRoot preferencePath : String) : Site :=
  ⟨nodeRoot, preferencePath, [none]⟩

/-- The opening that comes next. -/
def nextOpening (site : Site) : Opening :=
  site.openings.length

/-- Open the preference store once more. -/
def reopen (site : Site) : Site :=
  { site with openings := site.openings ++ [none] }

/-- What an opening knows. -/
def knowledge (site : Site) (opening : Opening) : Knowledge :=
  (site.openings[opening]?).join

/-- Remember what an opening learned. -/
def learn (site : Site) (opening : Opening) (known : Except FileTrouble Preferences) : Site :=
  { site with openings := site.openings.set opening (some known) }

/-- What keeps an opening from using the file, if it was read and something did. -/
def trouble? (site : Site) (opening : Opening) : Option FileTrouble :=
  match site.knowledge opening with
  | some (.error trouble) => some trouble
  | _ => none

variable {m : Type → Type} [Monad m] [FileSystem m]

/-- The preferences as an opening sees them; a file that cannot be used holds none. -/
def preferences (opening : Opening) : StateT Site m Preferences := do
  let site ← get
  let known ←
    match site.knowledge opening with
    | some known => pure known
    | none => do
      let known ← (PreferenceFile.read site.preferencePath : m _)
      set (site.learn opening known)
      pure known
  pure (known.toOption.getD .empty)

/-- Save a value in the file, and then in what the opening knows. -/
def save (opening : Opening) (key : String) (value : Int64) :
    StateT Site m (Except PreferenceError Unit) := do
  let before ← preferences opening
  let site ← get
  let next := before.insert key value
  match ← (PreferenceFile.write site.preferencePath next : m _) with
  | .error error => pure (.error error)
  | .ok () => do
    set (site.learn opening (.ok next))
    pure (.ok ())

instance : NodeAccess (StateT Site m) where
  isPresent path := do
    let site ← get
    (NodeFile.isPresent site.nodeRoot path : m _)
  read path := do
    let site ← get
    (NodeFile.read site.nodeRoot path : m _)
  write path text := do
    let site ← get
    (NodeFile.write site.nodeRoot path text : m _)

instance : PreferenceAccess (StateT Site m) where
  saved? opening key := do
    let known ← preferences opening
    pure (known.get? key)
  save := save

end Site

end KernelControls
