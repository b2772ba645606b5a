import KernelControls.Family
import KernelControls.OsError
import KernelControls.Preferences

/-!
# Stores of preferences

The engine asks a store for saved values and gives it new ones.  A store may be opened
more than once in the life of a machine; a session keeps using the opening it started
with, so every request names its opening.
-/

namespace KernelControls

/-- Why a value could not be saved. -/
inductive PreferenceError where
  | io (cause : OsError)
  | notPlaced (path : String) (cause : OsError)
  deriving DecidableEq, Repr

/-- What is said about a value that could not be saved. -/
def PreferenceError.message : PreferenceError → String
  | io cause => "IO error: " ++ cause.message
  | notPlaced path cause => "Failed to persist " ++ path ++ ": " ++ cause.message

/-- One opening of the preference store, counted from the first. -/
abbrev Opening := Nat

/-- Access to saved values. -/
class PreferenceAccess (m : Type → Type) where
  /-- The value saved for a key, if there is one. -/
  saved? : Opening → String → m (Option Int64)
  /-- Save a value: it is saved for good, or the old one stays. -/
  save : Opening → String → Int64 → m (Except PreferenceError Unit)

variable {m : Type → Type} [Monad m] [PreferenceAccess m]

/-- The saved value of a control, or its default. -/
def Control.saved (control : Control) (opening : Opening) : m Int64 := do
  let value ← PreferenceAccess.saved? opening control.key
  pure (value.getD control.default)

end KernelControls
