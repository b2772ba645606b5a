/-!
# Paths by component

Node paths come verbatim from definition files, so one node may be spelled in many
ways: repeated slashes, `.` components, slashes at the end.  Two spellings name one node
when their components are equal.  A `..` is a component of its own, not a step back.

## Strategy

A path is cut at its slashes.  `pieces` keeps every piece, as a walk through a file tree
needs them, and `components` keeps those that tell paths apart.  The other functions are
stated on components: resolving under a root, the parent, the extension.
-/

namespace KernelControls.Path

/-- One component of a path. -/
inductive Component where
  | root
  | here
  | up
  | name (text : String)
  deriving DecidableEq, Repr

/-- The texts between the slashes of a path, also the empty ones. -/
def pieces (path : String) : List String :=
  (path.toList.splitOn '/').map String.ofList

/-- Whether a path starts at the root. -/
def isAbsolute (path : String) : Bool :=
  path.toList.head? == some '/'

/-- The component that a piece stands for; empty pieces and `.` stand for none. -/
def Component.ofPiece? : String → Option Component
  | "" => none
  | "." => none
  | ".." => some .up
  | text => some (.name text)

/-- The components of a path.  A `.` counts only where a relative path starts with it. -/
def components (path : String) : List Component :=
  let named := (pieces path).filterMap Component.ofPiece?
  if isAbsolute path then .root :: named
  else if (pieces path).head? == some "." then .here :: named
  else named

/-- Whether two paths are spellings of one another. -/
def Same (left right : String) : Prop :=
  components left = components right

instance (left right : String) : Decidable (Same left right) :=
  inferInstanceAs (Decidable (components left = components right))

/-! ## Building paths -/

/-- The text of a component. -/
def Component.text : Component → String
  | root => "/"
  | here => "."
  | up => ".."
  | name text => text

/-- A relative path appended to a directory.  The slash between them is added unless it is
there already or there is no directory. -/
def join (directory relative : String) : String :=
  if directory.isEmpty || directory.toList.getLast? == some '/' then directory ++ relative
  else directory ++ "/" ++ relative

/-- The plain text of components. -/
def ofComponents : List Component → String
  | [] => ""
  | .root :: rest => "/" ++ String.intercalate "/" (rest.map Component.text)
  | components => String.intercalate "/" (components.map Component.text)

/-- The file that a node path names when the nodes live under `root`. -/
def resolve (root path : String) : String :=
  join root (ofComponents ((components path).filter (· ≠ .root)))

/-! ## Parts of a path -/

/-- The path without its last component, unless there is none to drop. -/
def parent? (path : String) : Option String :=
  match (components path).getLast? with
  | none | some .root => none
  | some _ => some (ofComponents (components path).dropLast)

/-- The last component, if it is a name. -/
def fileName? (path : String) : Option String :=
  match (components path).getLast? with
  | some (.name text) => some text
  | _ => none

/-- The part of a name after its last dot, unless the only dot leads the name. -/
def extension? (name : String) : Option String :=
  match (name.toList.splitOn '.').reverse with
  | last :: before :: earlier =>
    if before.isEmpty && earlier.isEmpty then none else some (String.ofList last)
  | _ => none

example : resolve "root" "/sys//a/./b/" = "root/sys/a/b" := by decide +kernel

example : resolve "" "/" = "" ∧ resolve "r" "/" = "r/" := by decide +kernel

example : extension? "x.toml" = some "toml" ∧ extension? ".toml" = none := by decide +kernel

end KernelControls.Path
