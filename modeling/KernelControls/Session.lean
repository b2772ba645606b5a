import KernelControls.Batch
import KernelControls.Coordinator
import KernelControls.Node
import KernelControls.PreferenceStore

/-!
# Editing sessions

A session edits the controls of one family.  Opening it captures every control's saved
value.  Edits are previews: they reach the nodes at once and nothing else.  Accepting the
session saves its current values; giving it up restores the captured values, but only if
it was the last session open at its coordinator.

## Strategy

A session is a value: the edits and the ticket it has to give back.  Every operation on
edits pairs the new edits, which do not depend on the nodes at all, with a batch of
writes; so what a session shows is a function of what it captured and what it was told.
-/

namespace KernelControls

/-- A control under edit: the value captured when the session opened, and the value now
previewed. -/
structure Edit where
  control : Control
  captured : Int64
  current : Int64
  deriving DecidableEq, Repr

namespace Edit

/-- The name of the control. -/
def name (edit : Edit) : String :=
  edit.control.name

/-- Whether the previewed value differs from the captured one. -/
def isModified (edit : Edit) : Bool :=
  edit.current ≠ edit.captured

/-- Whether the previewed value lies in the control's range. -/
def inRange (edit : Edit) : Bool :=
  edit.control.contains edit.current

/-- The previewed value as people see it. -/
def display (edit : Edit) : String :=
  edit.control.codec.display edit.current edit.control.maximum

/-- The edit with another value previewed. -/
def preview (edit : Edit) (value : Int64) : Edit :=
  { edit with current := value }

end Edit

/-- An editing session over one family. -/
structure Session where
  family : String
  opening : Opening
  coordinator : CoordinatorName
  ticket : Ticket
  edits : List Edit
  deriving DecidableEq, Repr

/-- How a session ended. -/
inductive Ending where
  | committed
  | reverted
  | revertSkipped
  deriving DecidableEq, Repr

/-- How a session ended, and the controls whose write or saving was refused. -/
structure Closing where
  ending : Ending
  failed : List String
  deriving DecidableEq, Repr

/-- Whether nothing was refused. -/
def Closing.isClean (closing : Closing) : Bool :=
  closing.failed.isEmpty

variable {m : Type → Type} [Monad m]

/-- The names of refused edits. -/
def refusedNames {Reason : Type} (refused : List (Edit × Reason)) : List String :=
  refused.map fun entry => entry.1.name

/-! ## Writes and savings of edits -/

section Nodes

variable [NodeAccess m]

/-- Write the previewed value to the control's node. -/
def Edit.writeCurrent (edit : Edit) : m (Except NodeError Unit) :=
  edit.control.write edit.current

/-- Write the previewed values to the nodes; the names of the refused controls. -/
def writeEdits (edits : List Edit) : m (List String) := do
  let refused ← attemptAll Edit.writeCurrent edits
  pure (refusedNames refused)

end Nodes

section Preferences

variable [PreferenceAccess m]

/-- Capture the saved values of controls. -/
def captureEdits (opening : Opening) : List Control → m (List Edit)
  | [] => pure []
  | control :: rest => do
    let captured ← control.saved opening
    let others ← captureEdits opening rest
    pure (⟨control, captured, captured⟩ :: others)

/-- Save the previewed value of a control. -/
def Edit.save (opening : Opening) (edit : Edit) : m (Except PreferenceError Unit) :=
  PreferenceAccess.save opening edit.control.key edit.current

/-- Save the previewed values; the names of the refused controls. -/
def saveEdits (opening : Opening) (edits : List Edit) : m (List String) := do
  let refused ← attemptAll (Edit.save opening) edits
  pure (refusedNames refused)

end Preferences

/-! ## Edits of a session -/

namespace Session

/-- The first edit of a name. -/
def edit? (session : Session) (name : String) : Option Edit :=
  session.edits.find? fun edit => edit.name = name

/-- Preview a value on the first edit of a name. -/
def previewFirst (name : String) (value : Int64) : List Edit → List Edit
  | [] => []
  | edit :: rest =>
    if edit.name = name then edit.preview value :: rest
    else edit :: previewFirst name value rest

/-- The session with a value previewed on one control. -/
def preview (session : Session) (name : String) (value : Int64) : Session :=
  { session with edits := previewFirst name value session.edits }

/-- The session with every default previewed. -/
def previewDefaults (session : Session) : Session :=
  { session with edits := session.edits.map fun edit => edit.preview edit.control.default }

/-- The edits with every captured value previewed again. -/
def reverted (session : Session) : List Edit :=
  session.edits.map fun edit => edit.preview edit.captured

variable [NodeAccess m] [PreferenceAccess m]

/-- Preview every default; the names of the refused controls. -/
def reset (session : Session) : m (List String × Session) := do
  let defaults := session.previewDefaults
  let failed ← writeEdits defaults.edits
  pure (failed, defaults)

/-- End a session whose ticket was given back: save the previewed values if it is accepted,
else write the captured values if it was the last one open. -/
def finish (session : Session) (accepted lastOpen : Bool) : m Closing := do
  if accepted then
    let failed ← saveEdits session.opening session.edits
    pure ⟨.committed, failed⟩
  else if lastOpen then
    let failed ← writeEdits session.reverted
    pure ⟨.reverted, failed⟩
  else pure ⟨.revertSkipped, []⟩

end Session

/-! ## What previews leave alone -/

@[simp] theorem captured_previewFirst (name : String) (value : Int64) (edits : List Edit) :
    (Session.previewFirst name value edits).map Edit.captured = edits.map Edit.captured := by
  induction edits with
  | nil => rfl
  | cons edit rest ih =>
    by_cases here : edit.name = name
    · simp [Session.previewFirst, here, Edit.preview]
    · simp [Session.previewFirst, here, ih]

@[simp] theorem control_previewFirst (name : String) (value : Int64) (edits : List Edit) :
    (Session.previewFirst name value edits).map Edit.control = edits.map Edit.control := by
  induction edits with
  | nil => rfl
  | cons edit rest ih =>
    by_cases here : edit.name = name
    · simp [Session.previewFirst, here, Edit.preview]
    · simp [Session.previewFirst, here, ih]

end KernelControls
