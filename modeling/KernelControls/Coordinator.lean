/-!
# Coordinators of sessions

An editor that redraws itself may start its next session while the previous one is still
open.  A session that is given up must then leave the nodes to its successor, so only the
last one out restores them.  A coordinator counts the open sessions of one editor.

## Strategy

Opening gives a ticket that names its issuer, and closing takes one.  A ticket shown to
a coordinator that did not issue it changes no count and never permits a restoring.  All counts
together are one function from names to numbers.
-/

namespace KernelControls

/-- The name of a coordinator: the shared one of a family's editor, or a private one. -/
inductive CoordinatorName where
  | shared (family : String)
  | named (name : String)
  deriving DecidableEq, Repr

/-- What an opened session holds and gives back when it ends. -/
structure Ticket where
  issuer : CoordinatorName
  deriving DecidableEq, Repr

/-- How many sessions every coordinator has open. -/
structure Coordinators where
  openCount : CoordinatorName → Nat

namespace Coordinators

/-- Nothing is open. -/
def idle : Coordinators :=
  ⟨fun _ => 0⟩

/-- Set the count of one coordinator. -/
def setCount (coordinators : Coordinators) (name : CoordinatorName) (count : Nat) :
    Coordinators :=
  ⟨fun other => if other = name then count else coordinators.openCount other⟩

/-- Count an opened session. -/
def issue (coordinators : Coordinators) (name : CoordinatorName) : Ticket × Coordinators :=
  (⟨name⟩, coordinators.setCount name (coordinators.openCount name + 1))

/-- Count a closed session.  The answer is whether it was the last one open. -/
def close (coordinators : Coordinators) (name : CoordinatorName) (ticket : Ticket) :
    Bool × Coordinators :=
  if ticket.issuer ≠ name then (false, coordinators)
  else
    match coordinators.openCount name with
    | 0 => (false, coordinators)
    | count + 1 => (count == 0, coordinators.setCount name count)

/-! ## What opening and closing do to the counts -/

@[simp] theorem openCount_setCount (coordinators : Coordinators) (name other : CoordinatorName)
    (count : Nat) :
    (coordinators.setCount name count).openCount other =
      if other = name then count else coordinators.openCount other := rfl

theorem close_foreign (coordinators : Coordinators) {name : CoordinatorName} {ticket : Ticket}
    (hforeign : ticket.issuer ≠ name) : coordinators.close name ticket = (false, coordinators) :=
  if_pos hforeign

end Coordinators

end KernelControls
