import KernelControls.Engine.Error

/-!
# All values of a family at once

A whole family can be read and written as one line of values, in the order of
its controls and separated by single blanks.  Reading stops at the first value that
cannot be read.  Writing first takes the line apart; if it is not one number per control
nothing is written, and otherwise the values are written up to the first refusal.  None
of this touches saved values.
-/

namespace KernelControls

variable {m : Type → Type} [Monad m] [NodeAccess m]

/-! ## Reading -/

/-- The value that a control's node holds. -/
def Control.readValue (control : Control) : m (Except EngineError Int64) := do
  match ← NodeAccess.read control.path with
  | .error error => pure (.error (.node error))
  | .ok text =>
    match control.codec.decode text with
    | .error error => pure (.error (.malformed error))
    | .ok value => pure (.ok value)

/-- The values that the controls' nodes hold, up to the first that cannot be read. -/
def readValues : List Control → m (Except EngineError (List Int64))
  | [] => pure (.ok [])
  | control :: rest => do
    match ← control.readValue with
    | .error error => pure (.error error)
    | .ok value =>
      match ← readValues rest with
      | .error error => pure (.error error)
      | .ok others => pure (.ok (value :: others))

/-- The line of values. -/
def lineOfValues (values : List Int64) : String :=
  String.intercalate " " (values.map fun value => Decimal.text value.toInt)

/-! ## Writing -/

/-- The values of a line, unless a word is no 64-bit number. -/
def valuesOfLine? (line : String) : Option (List Int64) :=
  (Text.words line.toList).mapM Decimal.readWord?

/-- Write values to controls in pairs, up to the first refusal; whether none was refused. -/
def writeUntilRefused : List (Control × Int64) → m Bool
  | [] => pure true
  | (control, value) :: rest => do
    match ← control.write value with
    | .error _ => pure false
    | .ok () => writeUntilRefused rest

/-- Write a line of values to a family; whether every value was written. -/
def Family.writeLine (family : Family) (line : String) : m Bool :=
  match valuesOfLine? line with
  | none => pure false
  | some values =>
    if values.length = family.controls.length then
      writeUntilRefused (family.controls.zip values)
    else pure false

end KernelControls
