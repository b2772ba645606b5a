/-!
# Batches that isolate failures

Saving, reverting, resetting and restoring all work through the controls of a family and
attempt every one of them, whatever happened to the others.  What a batch reports is
which items were refused, in order, and why.
-/

namespace KernelControls

variable {m : Type → Type} [Monad m] {Item Reason : Type}

/-- Put an item in front of the refused ones if its own result is a refusal. -/
def noteRefusal (item : Item) (result : Except Reason Unit) (refused : List (Item × Reason)) :
    List (Item × Reason) :=
  match result with
  | .ok () => refused
  | .error reason => (item, reason) :: refused

/-- Attempt every item in order; the refused ones with their reasons, in order. -/
def attemptAll (attempt : Item → m (Except Reason Unit)) : List Item → m (List (Item × Reason))
  | [] => pure []
  | item :: rest => do
    let result ← attempt item
    let refused ← attemptAll attempt rest
    pure (noteRefusal item result refused)

/-! ## A batch on a state -/

variable {World : Type}

theorem attemptAll_cons_run (attempt : Item → StateM World (Except Reason Unit)) (item : Item)
    (rest : List Item) (world : World) :
    attemptAll attempt (item :: rest) world =
      (noteRefusal item (attempt item world).1
          (attemptAll attempt rest (attempt item world).2).1,
        (attemptAll attempt rest (attempt item world).2).2) := rfl

end KernelControls
