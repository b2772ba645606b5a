import KernelControls.Proofs.Backends.Auditing
import KernelControls.Proofs.Engine.Gates
import KernelControls.Proofs.Boot.Restart

/-!
# What a direct setting did

A direct setting is refused before anything is touched, or it writes the node and saves the value,
each once and whatever becomes of the other.  The answer tells which of this happened.  A value that
was saved without its node having taken it is not lost: the next restoring puts it there.

## Strategy

Three gates stand in a fixed order, and `Scene.gate?` is the first of them that is shut.  Behind the
gates there are two attempts, and on an atomic backend what they leave follows from whether they
were accepted, so the four ways to end are one statement (`applyDirect_behind_gates`).  The
restoring later on is linked to it by the saved value alone.
-/

namespace KernelControls

variable {World Place : Type} [DecidableEq Place] [NodeAccess (StateM World)]
  [PreferenceAccess (StateM World)] [LawfulBackend World Place]

/-! ## The gates -/

/-- The gate that keeps a control from being set directly: the family is edited in sessions, it has
no control of this name, or one of its nodes is missing. -/
def Scene.gate? (seen : Scene Place) (family : Family) (name : String) : Option EngineError :=
  if family.mode ≠ .direct then some (.wrongMode family.id family.mode)
  else if family.control? name = none then some (.unknownControl family.id name)
  else if seen.Lacks family then some (.unsupported family.id)
  else none

section Gates

variable {engine : Engine} {id name : String} {family : Family}

/-- What is checked before the nodes are asked. -/
theorem directControl_known (hknown : engine.family id = .ok family) (name : String) :
    engine.directControl id name =
      if family.mode = .direct then
        match family.control? name with
        | some control => .ok (family, control)
        | none => .error (.unknownControl family.id name)
      else .error (.wrongMode family.id family.mode) := by
  have hchecks : engine.directControl id name = (do
      Engine.requireMode family .direct
      let control ← Engine.control family name
      pure (family, control)) := by
    unfold Engine.directControl
    rw [hknown]
    rfl
  rw [hchecks]
  unfold Engine.requireMode Engine.control
  split
  · cases family.control? name <;> rfl
  · rfl

/-- A shut gate gives its refusal, and nothing is touched. -/
theorem applyDirect_at_gate (hknown : engine.family id = .ok family) {error : EngineError}
    {world : Audited World} (hgate : (scene world).gate? family name = some error) (value : Int64) :
    let after := perform (engine.applyDirect id name value) world
    after.1 = .error error ∧ world.Untouched after.2 := by
  have hfound := directControl_known hknown name
  unfold Scene.gate? at hgate
  split at hgate
  · next hmode =>
      rw [if_neg hmode] at hfound
      obtain rfl := Option.some.inj hgate
      rw [engine.applyDirect_refused world value hfound]
      exact ⟨rfl, .refl world⟩
  next hdirect =>
  rw [if_pos (not_not.mp hdirect)] at hfound
  split at hgate
  · next hunknown =>
      rw [hunknown] at hfound
      obtain rfl := Option.some.inj hgate
      rw [engine.applyDirect_refused world value hfound]
      exact ⟨rfl, .refl world⟩
  next hsome =>
  obtain ⟨control, hcontrol⟩ := Option.ne_none_iff_exists'.mp hsome
  rw [hcontrol] at hfound
  split at hgate
  · next hlacks =>
      obtain rfl := Option.some.inj hgate
      rw [engine.applyDirect_unsupported world value hfound hlacks.unsupported]
      exact ⟨rfl, (Audited.undisturbed world).isSupported family world (.refl world)⟩
  · cases hgate

/-- Behind the gates the control is known and the family is supported. -/
theorem Scene.gate?_eq_none {world : Audited World}
    (hgate : (scene world).gate? family name = none) :
    family.mode = .direct ∧ (∃ control, family.control? name = some control) ∧
      (perform family.isSupported world).1 = true := by
  unfold Scene.gate? at hgate
  split at hgate
  · cases hgate
  next hdirect =>
  split at hgate
  · cases hgate
  next hsome =>
  split at hgate
  · cases hgate
  next hcomplete =>
  obtain ⟨control, hcontrol⟩ := Option.ne_none_iff_exists'.mp hsome
  have hmem : control ∈ family.controls := List.mem_of_find?_eq_some hcontrol
  refine ⟨not_not.mp hdirect, ⟨control, hcontrol⟩, ?_⟩
  refine answer_isSupported world (List.ne_nil_of_mem hmem) fun other hother => ?_
  by_contra habsent
  exact hcomplete ⟨other, hother, Bool.eq_false_iff.mpr habsent⟩

end Gates

/-! ## Behind the gates -/

/-- What is left of two attempts, a write of a control's value to its node and a saving of the
value, of which each was made once. -/
structure Attempted (opening : Opening) (control : Control) (value : Int64) (written saved : Bool)
    (before after : Audited World) : Prop where
  writes : after.writes =
    before.writes ++ [((control.path, control.codec.encode value), written)]
  saves : after.saves = before.saves ++ [((control.key, value), saved)]
  tree : (scene after).tree =
    if written then (scene before).tree.put control.path (control.codec.encode value)
    else (scene before).tree
  saved : (scene after).saved opening =
    if saved then Function.update ((scene before).saved opening) control.key (some value)
    else (scene before).saved opening

/-- Behind the gates both attempts are made, and the answer says what became of them. -/
theorem applyDirect_behind_gates [AtomicBackend World Place] {engine : Engine} {id name : String}
    {family : Family} (hknown : engine.family id = .ok family) {world : Audited World}
    (hgate : (scene world).gate? family name = none)
    (hopened : AtomicStore.isOpened world engine.opening) (value : Int64) :
    let after := perform (engine.applyDirect id name value) world
    ∃ control written, ∃ saved : Except PreferenceError Unit,
      family.control? name = some control ∧
      Attempted engine.opening control value written saved.isOk world after.2 ∧
      after.1 = (saved.mapError .store).map fun _ => written := by
  obtain ⟨hmode, ⟨control, hcontrol⟩, hsupported⟩ := Scene.gate?_eq_none hgate
  have hfound := directControl_known hknown name
  rw [if_pos hmode, hcontrol] at hfound
  let looked := (perform family.isSupported world).2
  let written := perform (control.write value) looked
  let saved := perform (PreferenceAccess.save engine.opening control.key value) written.2
  have huntouched : world.Untouched looked :=
    (Audited.undisturbed world).isSupported family world (.refl world)
  have hrun := engine.applyDirect_supported world value hfound hsupported
  -- Neither looking for the nodes nor writing one takes the opening away.
  have hopenedLater : AtomicStore.isOpened written.2 engine.opening := by
    rw [show AtomicStore.isOpened written.2 = AtomicStore.isOpened looked from
      AtomicBackend.isOpened_write control.path (control.codec.encode value) looked]
    rw [(AtomicBackend.undisturbed _).isSupported family world rfl]
    exact hopened
  intro after
  refine ⟨control, written.1.isOk, saved.1, hcontrol, ?_, congrArg Prod.fst hrun⟩
  rw [show after.2 = saved.2 from congrArg Prod.snd hrun]
  constructor
  · exact congrArg (· ++ [((control.path, control.codec.encode value), written.1.isOk)])
      huntouched.writes
  · exact congrArg (· ++ [((control.key, value), saved.1.isOk)]) huntouched.saves
  · calc (scene saved.2).tree
        = (scene written.2).tree :=
          LawfulBackend.save_tree engine.opening control.key value written.2
      _ = if written.1.isOk then
            (scene looked).tree.put control.path (control.codec.encode value)
          else (scene looked).tree :=
          AtomicNodes.tree_write control.path (control.codec.encode value) looked
      _ = _ := by rw [huntouched.scene]
  · have hkept : (scene written.2).saved = (scene world).saved :=
      (LawfulBackend.write_saved control.path (control.codec.encode value) looked).trans
        (congrArg Scene.saved huntouched.scene)
    rw [← hkept]
    exact AtomicStore.saved_save hopenedLater control.key value

/-! ## The next restoring -/

/-- After a family was restored without a refusal, with all its nodes there, the node of a control
shows the value that was saved for it. -/
theorem Family.look_restored {family : Family} {opening : Opening} {world : World}
    (hdistinct : (family.controls.map fun control => (scene world).tree.place control.path).Nodup)
    (hpresent : ∀ control ∈ family.controls, (scene world).tree.isPresent control.path = true)
    (hclean : (perform (family.restore opening) world).1.outcome.failed = []) {control : Control}
    (hcontrol : control ∈ family.controls) {value : Int64}
    (hsaved : (scene world).saved opening control.key = some value) :
    (scene (perform (family.restore opening) world).2).tree.look control.path =
      .text (control.codec.encode value) := by
  have hlooked : scene (perform family.isSupported world).2 = scene world :=
    OnlyLooks.isSupported family world
  have hsame := (family.restore_outside opening world).1
  have hvalue :
      (scene (perform (family.restore opening) world).2).value opening control = value := by
    unfold Scene.value
    rw [hsame, hsaved]
    rfl
  -- All nodes are there, so the family is not skipped.
  have hsupported := answer_isSupported world (List.ne_nil_of_mem hcontrol) hpresent
  rcases family.restore_cases opening world with ⟨-, hrun⟩ | ⟨hskipped, -⟩
  case inr => rw [hsupported] at hskipped; cases hskipped
  rw [hrun] at hclean hvalue ⊢
  have hrefused := List.map_eq_nil_iff.mp (List.map_eq_nil_iff.mp hclean)
  have hagrees := agrees_restoreControls opening _ (hlooked ▸ hdistinct)
    ((attemptAll_eq_nil_iff (Control.restore opening)).mp hrefused) control hcontrol
  rw [hagrees, hvalue]

/-- **The answer to a direct setting determines what happened.**  Take any engine and any family of
its catalog, any name and any value, on nodes and a store of which anything may be refused.  If the
family is edited in sessions, or else has no control of the name, or else lacks a node, the answer
is this refusal and nothing was touched.  Otherwise the write of the value to the node and its
saving were attempted, each once.  The node has the text of the value if the write was accepted, and
what it had before if not; the store has the value under the key of the control if the saving was
accepted, and what it had before if not; everything else is as it was.  The answer is a refusal by
the store if the saving was refused, and otherwise whether the write was accepted.

If the saving was accepted, the value is on the node after the next restoring that finds the value
still saved and the nodes there, and in which no node refuses, whatever became of the write and of
the nodes in between: as long as the nodes of the family are distinct. -/
theorem applyDirect_answer_determines [AtomicBackend World Place] (engine : Engine) {id : String}
    {family : Family} (hknown : engine.family id = .ok family) (name : String) (value : Int64)
    (world : Audited World) (hopened : AtomicStore.isOpened world engine.opening) :
    let after := perform (engine.applyDirect id name value) world
    (∀ error, (scene world).gate? family name = some error →
      after.1 = .error error ∧ world.Untouched after.2) ∧
    ((scene world).gate? family name = none →
      ∃ control written, ∃ saved : Except PreferenceError Unit,
        family.control? name = some control ∧
        Attempted engine.opening control value written saved.isOk world after.2 ∧
        after.1 = (saved.mapError .store).map (fun _ => written) ∧
        ((∃ flag, after.1 = .ok flag) → ∀ (later : World) (opening : Opening),
          let restored := perform (family.restore opening) later
          (family.controls.map fun control => (scene later).tree.place control.path).Nodup →
          (∀ control ∈ family.controls, (scene later).tree.isPresent control.path = true) →
          (scene later).saved opening control.key =
            (scene after.2).saved engine.opening control.key →
          restored.1.outcome.failed = [] →
          (scene restored.2).tree.look control.path = .text (control.codec.encode value))) := by
  intro after
  refine ⟨fun error hgate => applyDirect_at_gate hknown hgate value, fun hgate => ?_⟩
  obtain ⟨control, written, saved, hcontrol, hattempted, hanswer⟩ :=
    applyDirect_behind_gates hknown hgate hopened value
  refine ⟨control, written, saved, hcontrol, hattempted, hanswer, ?_⟩
  rintro ⟨flag, hflag⟩ later opening restored hdistinct hpresent hkept hclean
  -- An answer other than a refusal means that the value was saved, if nothing else.
  have haccepted : saved = .ok () := by
    cases saved with
    | error error => cases hanswer.symm.trans hflag
    | ok done => rfl
  have hsaved : (scene later).saved opening control.key = some value := by
    rw [hkept, hattempted.saved, haccepted]
    exact Function.update_self _ _ _
  have hmem : control ∈ family.controls := List.mem_of_find?_eq_some hcontrol
  exact Family.look_restored hdistinct hpresent hclean hmem hsaved

/-- The node of the car dock refuses, so the audio is switched in the preferences only.  After the
next start it accepts, and restoring switches it. -/
theorem car_dock_switched_later :
    let carDock := "/sys/class/misc/dockaudio/cardock_enable"
    let deskDock := "/sys/class/misc/dockaudio/deskdock_enable"
    let nodes := [(carDock, "0"), (deskDock, "0")]
    let engine := Engine.start ⟨[.dockAudio]⟩ 0
    let world : Audited (Paired Bench (FileStore FileTree)) :=
      { world := ⟨{ nodes := nodes, refusing := [carDock] },
          .start "" "data/preferences.toml", ⟨["work"], [(["work"], .directory)]⟩⟩ }
    let after := perform (engine.applyDirect "dock_audio" "cardock_audio" 1) world
    let later : Paired Bench (FileStore FileTree) :=
      ⟨{ nodes := nodes }, .start "" "data/preferences.toml", after.2.world.store.files⟩
    let restored := perform (Family.dockAudio.restore 0) later
    after.1 = .ok false ∧ after.2.writes = [((carDock, "1"), false)] ∧
      after.2.saves = [((carDock, 1), true)] ∧
      (scene restored.2).tree.look carDock = .text "1" := by
  intro carDock deskDock nodes engine world after later restored
  have hopened : AtomicStore.isOpened world engine.opening := Nat.zero_lt_one
  have hknown : engine.family "dock_audio" = .ok .dockAudio := rfl
  obtain ⟨-, hbehind⟩ :=
    applyDirect_answer_determines engine hknown "cardock_audio" 1 world hopened
  obtain ⟨control, -, -, hcontrol, -, -, hretried⟩ := hbehind (by decide +kernel)
  have hanswer : after.1 = .ok false := by decide +kernel
  obtain rfl : control = Family.dock "cardock" :=
    Option.some.inj (hcontrol.symm.trans (by decide +kernel))
  have hshown := hretried ⟨false, hanswer⟩ later 0 (by decide +kernel) (by decide +kernel)
    (by decide +kernel) (by decide +kernel)
  exact ⟨hanswer, by decide +kernel, by decide +kernel, hshown⟩

end KernelControls
