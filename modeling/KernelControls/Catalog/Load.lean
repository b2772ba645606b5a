import KernelControls.Catalog
import KernelControls.Family.Form
import KernelControls.FileSystem
import KernelControls.Toml.Form
import KernelControls.Toml.Reader

/-!
# Loading definition files

A catalog can be extended by a directory of definition files, one family each.  The files
whose extension is `toml` are taken in ascending order of their names, whatever order the
directory lists them in, and inserted one after the other into the built-in catalog.  The
first file that is no family ends the loading.
-/

namespace KernelControls

/-- Why a catalog could not be loaded. -/
inductive LoadError where
  | io (cause : OsError)
  | malformed (path : String)
  | invalid (invalid : Family.Invalid)
  deriving DecidableEq, Repr

/-- A family that was read from a definition file. -/
structure Definition where
  family : String
  path : String
  deriving DecidableEq, Repr

namespace Family

/-- The family that a definition document describes. -/
def ofDocument? (text : String) : Option Family := do
  ofForm? .definition (.record (Toml.fieldsForm (← Toml.read? text)))

end Family

namespace Catalog

/-- The extension of definition files. -/
def definitionExtension : String := "toml"

/-- The names of definition files among the names in a directory, in ascending order. -/
def definitionNames (names : List String) : List String :=
  (names.filter fun name => Path.extension? name == some definitionExtension).mergeSort
    fun earlier later => earlier ≤ later

variable {m : Type → Type} [Monad m] [FileSystem m]

/-- Read the family of a definition file. -/
def readDefinition (path : String) : m (Except LoadError Family) := do
  match ← FileSystem.readText path with
  | .error cause => pure (.error (.io cause))
  | .ok text =>
    match Family.ofDocument? text with
    | some family => pure (.ok family)
    | none => pure (.error (.malformed path))

/-- Insert the families of definition files, in order, up to the first failure.  Beside the
result stands what was read until then. -/
def insertDefinitions (catalog : Catalog) :
    List String → m (List Definition × Except LoadError Catalog)
  | [] => pure ([], .ok catalog)
  | path :: rest => do
    match ← readDefinition path with
    | .error error => pure ([], .error error)
    | .ok family =>
      let read : Definition := ⟨family.id, path⟩
      match catalog.insert family with
      | .error invalid => pure ([read], .error (.invalid invalid))
      | .ok extended => do
        let (others, result) ← insertDefinitions extended rest
        pure (read :: others, result)

/-- Load the built-in catalog with the definition files of a directory, which need not be
there. -/
def load (directory : String) : m (List Definition × Except LoadError Catalog) := do
  if ← FileSystem.isPresent directory then
    match ← FileSystem.list directory with
    | .error cause => pure ([], .error (.io cause))
    | .ok names => builtin.insertDefinitions ((definitionNames names).map (Path.join directory))
  else pure ([], .ok builtin)

end Catalog

end KernelControls
