import KernelControls.Association
import KernelControls.Node
import KernelControls.PreferenceStore

/-!
# A test bench in memory

Nodes and preferences that live in memory, with switches that make writes fail.  The
bench records every successful write, so a test can tell what an operation did.

## Strategy

A node is found by its path up to spelling: `Path.Same` decides.  The spelling under
which a node was first inserted stays with it, whatever spelling later writes use.
-/

namespace KernelControls

/-- Nodes and preferences in memory. -/
structure Bench where
  nodes : List (String × String) := []
  refusing : List String := []
  writes : List (String × String) := []
  preferences : Preferences := .empty
  refusesSaves : Bool := false

namespace Bench

/-! ## Nodes -/

/-- Replace the text of the node that a path names, or append a node. -/
def putNode (path text : String) : List (String × String) → List (String × String)
  | [] => [(path, text)]
  | node :: rest =>
    if Path.Same node.1 path then (node.1, text) :: rest else node :: putNode path text rest

/-- The text of a node. -/
def value? (bench : Bench) (path : String) : Option String :=
  (bench.nodes.find? fun node => Path.Same node.1 path).map Prod.snd

/-- Give a node a text from outside, which counts as no write. -/
def insertNode (bench : Bench) (path text : String) : Bench :=
  { bench with nodes := putNode path text bench.nodes }

/-- Remove a node, as on a kernel without it. -/
def removeNode (bench : Bench) (path : String) : Bench :=
  { bench with nodes := bench.nodes.filter fun node => ¬ Path.Same node.1 path }

/-- Make every later write to a path fail. -/
def refuseWrites (bench : Bench) (path : String) : Bench :=
  { bench with refusing := path :: bench.refusing }

/-- Whether writes to a path fail. -/
def refuses (bench : Bench) (path : String) : Bool :=
  bench.refusing.any fun refused => Path.Same refused path

/-- How many writes to a path succeeded. -/
def writeCount (bench : Bench) (path : String) : Nat :=
  (bench.writes.filter fun write => Path.Same write.1 path).length

/-- How many writes succeeded. -/
def totalWrites (bench : Bench) : Nat :=
  bench.writes.length

/-- Write a node, creating it if it is not there. -/
def writeNode (bench : Bench) (path text : String) : Except NodeError Unit × Bench :=
  if bench.refuses path then
    (.error (.unwritable path .permissionDenied), bench)
  else
    (.ok (), { bench with
      nodes := putNode path text bench.nodes
      writes := bench.writes ++ [(path, text)] })

/-- Read a node. -/
def readNode (bench : Bench) (path : String) : Except NodeError String :=
  match bench.value? path with
  | some text => .ok text
  | none => .error (.notFound path)

/-! ## Preferences -/

/-- Save a value, unless saving is made to fail. -/
def save (bench : Bench) (key : String) (value : Int64) : Except PreferenceError Unit × Bench :=
  if bench.refusesSaves then (.error (.io .permissionDenied), bench)
  else (.ok (), { bench with preferences := bench.preferences.insert key value })

/-! ## The bench stands in for a machine -/

instance : NodeAccess (StateM Bench) where
  isPresent path := fun bench => ((bench.value? path).isSome, bench)
  read path := fun bench => (bench.readNode path, bench)
  write path text := fun bench => bench.writeNode path text

instance : PreferenceAccess (StateM Bench) where
  saved? _ key := fun bench => (bench.preferences.get? key, bench)
  save _ key value := fun bench => bench.save key value

end Bench

end KernelControls
