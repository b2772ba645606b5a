import KernelControls.Family
import KernelControls.OsError

/-!
# Control nodes

The engine reaches kernel nodes by the absolute paths under which the kernel shows them.
Where those nodes really live, under the root of the machine, under another directory or
in memory, is decided by an implementation of `NodeAccess`.
-/

namespace KernelControls

/-- Why a node could not be read or written. -/
inductive NodeError where
  | notFound (path : String)
  | unreadable (path : String) (cause : OsError)
  | unwritable (path : String) (cause : OsError)
  deriving DecidableEq, Repr

namespace NodeError

/-- The node that an error is about. -/
def path : NodeError → String
  | notFound path => path
  | unreadable path _ => path
  | unwritable path _ => path

/-- What is said about an error. -/
def message : NodeError → String
  | notFound path => "Control node not found: " ++ path
  | unreadable path cause => "Failed to read " ++ path ++ ": " ++ cause.message
  | unwritable path cause => "Failed to write " ++ path ++ ": " ++ cause.message

end NodeError

/-- Access to control nodes by their kernel paths. -/
class NodeAccess (m : Type → Type) where
  /-- Whether the node is there. -/
  isPresent : String → m Bool
  /-- The text of the node. -/
  read : String → m (Except NodeError String)
  /-- Replace the text of the node. -/
  write : String → String → m (Except NodeError Unit)

variable {m : Type → Type} [Monad m] [NodeAccess m]

/-- Write a control's value to its node. -/
def Control.write (control : Control) (value : Int64) : m (Except NodeError Unit) :=
  NodeAccess.write control.path (control.codec.encode value)

/-! ## Support -/

/-- The paths whose nodes are not there, in order. -/
def missingPaths : List String → m (List String)
  | [] => pure []
  | path :: rest => do
    let present ← NodeAccess.isPresent path
    let others ← missingPaths rest
    pure (if present then others else path :: others)

namespace Family

/-- The paths of a family's missing nodes, in order. -/
def missing (family : Family) : m (List String) :=
  missingPaths (family.controls.map Control.path)

/-- A family is supported when it has controls and none of their nodes is missing. -/
def isSupported (family : Family) : m Bool := do
  let missing ← family.missing
  pure (!family.controls.isEmpty && missing.isEmpty)

end Family

end KernelControls
