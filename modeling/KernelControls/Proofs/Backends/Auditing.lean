import KernelControls.Proofs.Backends.Atomic
import KernelControls.Proofs.Backends.Recording

/-!
# Auditing what is attempted

An audited backend is as lawful, as atomic and as firm as the backend below.  An audit tells of a
batch what its report and the nodes alone do not: that each item was attempted, how often, and when.

## Strategy

A batch is followed item by item.  `answersOf` lists its items with their answers, and the report of
a batch names those with a refusal (`map_fst_attemptAll`).  On an atomic backend the answers also
decide what is left.  `WritesEach` and `SavesEach` say so of writes and of savings, and both are
inductions over the batch with one attempt as their step.
-/

namespace KernelControls

/-! ## The answers of a batch -/

section Batch

variable {World Item Reason : Type} (attempt : Item → StateM World (Except Reason Unit))

/-- The items of a batch with their answers. -/
def answersOf : List Item → World → Answered Item
  | [], _ => []
  | item :: rest, world =>
    let done := perform (attempt item) world
    (item, done.1.isOk) :: answersOf rest done.2

@[simp] theorem requests_answersOf (items : List Item) (world : World) :
    Answered.requests (answersOf attempt items world) = items := by
  induction items generalizing world with
  | nil => rfl
  | cons item rest ih => exact congrArg (item :: ·) (ih (perform (attempt item) world).2)

theorem map_fst_attemptAll (items : List Item) (world : World) :
    (perform (attemptAll attempt items) world).1.map Prod.fst =
      Answered.refused (answersOf attempt items world) := by
  induction items generalizing world with
  | nil => rfl
  | cons item rest ih =>
      have hlater := ih (perform (attempt item) world).2
      rw [perform, attemptAll_cons_run, answersOf, Answered.refused_cons]
      show (noteRefusal item (perform (attempt item) world).1 _).map Prod.fst = _
      cases (perform (attempt item) world).1 with
      | ok done => exact hlater
      | error reason => exact congrArg (item :: ·) hlater

end Batch

/-! ## Audited backends -/

namespace Audited

variable {World Place : Type} [DecidableEq Place]

instance lawful [NodeAccess (StateM World)] [PreferenceAccess (StateM World)]
    [LawfulBackend World Place] : LawfulBackend (Audited World) Place where
  tree audited := LawfulNodes.tree audited.world
  isPresent_answer path audited := LawfulNodes.isPresent_answer path audited.world
  isPresent_tree path audited := LawfulNodes.isPresent_tree path audited.world
  read_answer path text audited := LawfulNodes.read_answer path text audited.world
  read_tree path audited := LawfulNodes.read_tree path audited.world
  write_accepted path text audited := LawfulNodes.write_accepted path text audited.world
  write_outside path text audited := LawfulNodes.write_outside path text audited.world
  saved audited := LawfulStore.saved audited.world
  saved_answer opening key audited := LawfulStore.saved_answer opening key audited.world
  saved_saved opening key audited := LawfulStore.saved_saved opening key audited.world
  save_accepted opening key value audited :=
    LawfulStore.save_accepted opening key value audited.world
  isPresent_saved path audited := LawfulBackend.isPresent_saved path audited.world
  read_saved path audited := LawfulBackend.read_saved path audited.world
  write_saved path text audited := LawfulBackend.write_saved path text audited.world
  saved_tree opening key audited := LawfulBackend.saved_tree opening key audited.world
  save_tree opening key value audited := LawfulBackend.save_tree opening key value audited.world

instance atomic [NodeAccess (StateM World)] [PreferenceAccess (StateM World)]
    [LawfulBackend World Place] [AtomicBackend World Place] :
    AtomicBackend (Audited World) Place where
  write_refused path text error audited :=
    AtomicNodes.write_refused path text error audited.world
  isOpened audited := AtomicStore.isOpened audited.world
  save_refused opening key value error audited :=
    AtomicStore.save_refused opening key value error audited.world
  isOpened_saved? opening key audited := AtomicStore.isOpened_saved? opening key audited.world
  isOpened_save opening key value audited :=
    AtomicStore.isOpened_save opening key value audited.world
  isOpened_isPresent path audited := AtomicBackend.isOpened_isPresent path audited.world
  isOpened_read path audited := AtomicBackend.isOpened_read path audited.world
  isOpened_write path text audited := AtomicBackend.isOpened_write path text audited.world

instance firm [NodeAccess (StateM World)] [PreferenceAccess (StateM World)]
    [LawfulBackend World Place] [FirmNodes World Place] : FirmNodes (Audited World) Place where
  write_refused path text error audited :=
    AtomicNodes.write_refused path text error audited.world
  refuses audited := FirmNodes.refuses audited.world
  isOk_write path text audited := FirmNodes.isOk_write path text audited.world
  refuses_write path text audited := FirmNodes.refuses_write path text audited.world

end Audited

section Lawful

variable {World Place Item : Type} [DecidableEq Place] [NodeAccess (StateM World)]
  [PreferenceAccess (StateM World)] [LawfulBackend World Place]

/-! ## Asking -/

/-- Nothing that can be seen changed, and nothing was attempted. -/
structure Audited.Untouched (before after : Audited World) : Prop where
  scene : scene after = scene before
  writes : after.writes = before.writes
  saves : after.saves = before.saves

/-- What is untouched stays so while one only asks. -/
theorem Audited.undisturbed (before : Audited World) :
    Undisturbed fun after : Audited World => before.Untouched after where
  isPresent path after huntouched :=
    ⟨(OnlyLooks.isPresent path after).trans huntouched.scene, huntouched.writes, huntouched.saves⟩
  read path after huntouched :=
    ⟨(OnlyLooks.read path after).trans huntouched.scene, huntouched.writes, huntouched.saves⟩
  saved? opening key after huntouched :=
    ⟨(OnlyLooks.saved? opening key after).trans huntouched.scene, huntouched.writes,
      huntouched.saves⟩

theorem Audited.Untouched.refl (audited : Audited World) : audited.Untouched audited :=
  ⟨rfl, rfl, rfl⟩

/-! ## Batches of writes -/

/-- Requests were attempted as writes of nodes, each of them once and in order.  The accepted ones
put their texts on the nodes in this order, the refused ones did nothing, and nothing was saved. -/
structure WritesEach (node : Item → String × String) (answered : Answered Item)
    (before after : Audited World) : Prop where
  writes : after.writes = before.writes ++ Answered.inForm node answered
  saves : after.saves = before.saves
  tree : (scene after).tree =
    (scene before).tree.putAll ((Answered.accepted answered).map node)
  saved : (scene after).saved = (scene before).saved

namespace WritesEach

variable {node : Item → String × String} {before middle after : Audited World}

theorem nil (before : Audited World) : WritesEach node [] before before where
  writes := (List.append_nil _).symm
  saves := rfl
  tree := rfl
  saved := rfl

theorem cons {entry : Item × Bool} {rest : Answered Item}
    (hentry : WritesEach node [entry] before middle) (hrest : WritesEach node rest middle after) :
    WritesEach node (entry :: rest) before after where
  writes := by
    rw [hrest.writes, hentry.writes, List.append_assoc]
    rfl
  saves := hrest.saves.trans hentry.saves
  tree := by
    rw [hrest.tree, hentry.tree, ← NodeTree.putAll_append, Answered.accepted_cons,
      Answered.accepted_cons]
    split <;> rfl
  saved := hrest.saved.trans hentry.saved

theorem of_untouched {answered : Answered Item} (huntouched : before.Untouched middle)
    (hwrites : WritesEach node answered middle after) : WritesEach node answered before after where
  writes := huntouched.writes ▸ hwrites.writes
  saves := hwrites.saves.trans huntouched.saves
  tree := huntouched.scene ▸ hwrites.tree
  saved := huntouched.scene ▸ hwrites.saved

/-- A batch whose attempts are writes, as long as the saved values stay. -/
theorem attemptAll {attempt : Item → StateM (Audited World) (Except NodeError Unit)}
    {saved : Opening → String → Option Int64}
    (hattempt : ∀ item world, (scene world).saved = saved →
      WritesEach node [(item, (perform (attempt item) world).1.isOk)] world
        (perform (attempt item) world).2)
    (items : List Item) {world : Audited World} (hsaved : (scene world).saved = saved) :
    WritesEach node (answersOf attempt items world) world
      (perform (KernelControls.attemptAll attempt items) world).2 := by
  induction items generalizing world with
  | nil => exact .nil world
  | cons item rest ih =>
      have hfirst := hattempt item world hsaved
      exact hfirst.cons (ih (hfirst.saved.trans hsaved))

variable [AtomicNodes World Place]

theorem single (item : Item) (before : Audited World) :
    let written := perform (NodeAccess.write (node item).1 (node item).2) before
    WritesEach node [(item, written.1.isOk)] before written.2 where
  writes := rfl
  saves := rfl
  tree := by
    have htree := AtomicNodes.tree_write (node item).1 (node item).2 before.world
    rw [Answered.accepted_cons]
    refine htree.trans ?_
    show (if (perform (NodeAccess.write (node item).1 (node item).2) before).1.isOk then _ else _)
      = _
    split <;> rfl
  saved := LawfulBackend.write_saved (node item).1 (node item).2 before.world

end WritesEach

/-! ## Batches of savings -/

/-- Edits were attempted as savings, each of them once and in order.  The accepted ones are put over
what was saved in this order, the refused ones did nothing, and no node was written. -/
structure SavesEach (opening : Opening) (answered : Answered Edit)
    (before after : Audited World) : Prop where
  writes : after.writes = before.writes
  saves : after.saves =
    before.saves ++ Answered.inForm (fun edit => (edit.control.key, edit.current)) answered
  tree : (scene after).tree = (scene before).tree
  saved : (scene after).saved opening =
    putOver ((scene before).saved opening) (Answered.accepted answered)

namespace SavesEach

variable {opening : Opening} {before middle after : Audited World}

theorem nil (before : Audited World) : SavesEach opening [] before before where
  writes := rfl
  saves := (List.append_nil _).symm
  tree := rfl
  saved := rfl

theorem cons {entry : Edit × Bool} {rest : Answered Edit}
    (hentry : SavesEach opening [entry] before middle)
    (hrest : SavesEach opening rest middle after) :
    SavesEach opening (entry :: rest) before after where
  writes := hrest.writes.trans hentry.writes
  saves := by
    rw [hrest.saves, hentry.saves, List.append_assoc]
    rfl
  tree := hrest.tree.trans hentry.tree
  saved := by
    rw [hrest.saved, hentry.saved, Answered.accepted_cons, Answered.accepted_cons]
    split <;> rfl

variable [AtomicBackend World Place]

theorem single (edit : Edit) {before : Audited World}
    (hopened : AtomicStore.isOpened before opening) :
    let saved := perform (edit.save opening) before
    SavesEach opening [(edit, saved.1.isOk)] before saved.2 where
  writes := rfl
  saves := rfl
  tree := LawfulBackend.save_tree opening edit.control.key edit.current before.world
  saved := by
    have hsaved := AtomicStore.saved_save hopened edit.control.key edit.current
    rw [Answered.accepted_cons]
    refine hsaved.trans ?_
    show (if (perform (edit.save opening) before).1.isOk then _ else _) = _
    split <;> rfl

/-- A batch of savings in an opening that was made. -/
theorem attemptAll (edits : List Edit) {world : Audited World}
    (hopened : AtomicStore.isOpened world opening) :
    SavesEach opening (answersOf (Edit.save opening) edits world) world
      (perform (KernelControls.attemptAll (Edit.save opening) edits) world).2 := by
  induction edits generalizing world with
  | nil => exact .nil world
  | cons edit rest ih =>
      -- The saving is followed by others through the same opening, which is still there.
      have hkept : AtomicStore.isOpened (perform (edit.save opening) world).2 =
          AtomicStore.isOpened world :=
        AtomicStore.isOpened_save opening edit.control.key edit.current world
      exact (single edit hopened).cons (ih (by rw [hkept]; exact hopened))

end SavesEach

end Lawful

end KernelControls
