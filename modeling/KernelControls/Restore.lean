import KernelControls.Batch
import KernelControls.Json.Basic
import KernelControls.Node
import KernelControls.PreferenceStore

/-!
# Restoring saved values

After the machine has started, every saved value is written to its node again.  A
family is restored as a whole or skipped as a whole: skipped if it has no controls or any
of its nodes is missing.  Within a restored family a refused write does not stop the
others.

## Strategy

Restoring a family is a batch over its controls, each of which reads its saved value and
writes it.  The outcome keeps the reasons of the refused writes; the report that is
written for others lists only the names.
-/

namespace KernelControls

/-- What became of a family. -/
inductive Outcome where
  | applied (written : Nat) (failures : List (String × NodeError))
  | skipped (missing : List String)
  deriving DecidableEq, Repr

namespace Outcome

/-- The names of the controls whose writes were refused. -/
def failed : Outcome → List String
  | applied _ failures => failures.map Prod.fst
  | skipped _ => []

/-- Whether the family was restored. -/
def isApplied : Outcome → Bool
  | applied _ _ => true
  | skipped _ => false

/-- The fields of an outcome's form. -/
def fields : Outcome → List (String × Json)
  | applied written failures =>
    [("status", .text "applied"), ("written", .integer written),
      ("failed", .ofTexts (failures.map Prod.fst))]
  | skipped missing => [("status", .text "skipped"), ("missing", .ofTexts missing)]

/-- The form of an outcome without its family. -/
def toForm (outcome : Outcome) : Json :=
  .record outcome.fields

end Outcome

/-- What became of one family, by its id. -/
structure FamilyOutcome where
  family : String
  outcome : Outcome
  deriving DecidableEq, Repr

/-- The form of a family's outcome. -/
def FamilyOutcome.toForm (entry : FamilyOutcome) : Json :=
  .record (("family", .text entry.family) :: entry.outcome.fields)

/-- What became of all families, in order. -/
structure RestoreReport where
  families : List FamilyOutcome
  deriving DecidableEq, Repr

namespace RestoreReport

/-- How many families were restored. -/
def applied (report : RestoreReport) : Nat :=
  (report.families.filter fun entry => entry.outcome.isApplied).length

/-- How many families were skipped. -/
def skipped (report : RestoreReport) : Nat :=
  report.families.length - report.applied

/-- How many writes were refused. -/
def failures (report : RestoreReport) : Nat :=
  (report.families.map fun entry => entry.outcome.failed.length).foldr (· + ·) 0

/-- What became of the family of an id. -/
def outcome? (report : RestoreReport) (family : String) : Option Outcome :=
  (report.families.find? fun entry => entry.family = family).map FamilyOutcome.outcome

/-- The form of a report. -/
def toForm (report : RestoreReport) : Json :=
  .record [("families", .list (report.families.map FamilyOutcome.toForm))]

end RestoreReport

/-! ## Restoring -/

variable {m : Type → Type} [Monad m] [NodeAccess m] [PreferenceAccess m]

/-- Write a control's saved value, or its default, to its node. -/
def Control.restore (opening : Opening) (control : Control) : m (Except NodeError Unit) := do
  let value ← control.saved opening
  control.write value

/-- Restore a family, or skip it. -/
def Family.restore (opening : Opening) (family : Family) : m FamilyOutcome := do
  if ← family.isSupported then
    let refused ← attemptAll (Control.restore opening) family.controls
    let failures := refused.map fun entry => (entry.1.name, entry.2)
    pure ⟨family.id, .applied (family.controls.length - failures.length) failures⟩
  else
    let missing ← family.missing
    pure ⟨family.id, .skipped missing⟩

/-- Restore families one after the other. -/
def restoreFamilies (opening : Opening) : List Family → m (List FamilyOutcome)
  | [] => pure []
  | family :: rest => do
    let outcome ← family.restore opening
    let others ← restoreFamilies opening rest
    pure (outcome :: others)

/-- Restore all families and report. -/
def restoreAll (opening : Opening) (families : List Family) : m RestoreReport := do
  let outcomes ← restoreFamilies opening families
  pure ⟨outcomes⟩

end KernelControls
