import KernelControls.Node
import KernelControls.PreferenceStore

/-!
# Refusals of the engine

Why the engine did not do what it was asked, as causes with one wording each.
-/

namespace KernelControls

/-- Why a request to the engine was refused. -/
inductive EngineError where
  | unknownFamily (family : String)
  | unknownControl (family control : String)
  | unsupported (family : String)
  | wrongMode (family : String) (mode : Mode)
  | node (error : NodeError)
  | store (error : PreferenceError)
  | malformed (error : Codec.Malformed)
  | sessionInUse
  | noSession
  | noTicket
  deriving DecidableEq, Repr

/-- What is said about a refusal. -/
def EngineError.message : EngineError → String
  | unknownFamily family => "Unknown control family: " ++ family
  | unknownControl family control => "Unknown control " ++ control ++ " in family " ++ family
  | unsupported family => "Control family not supported by this kernel: " ++ family
  | wrongMode family mode => "Family " ++ family ++ " is edited in " ++ mode.title ++ " mode"
  | node error => "Node error: " ++ error.message
  | store error => "Preference store error: " ++ error.message
  | malformed error => error.message
  | sessionInUse => "session name in use"
  | noSession => "no such session"
  | noTicket => "no such ticket"

end KernelControls
