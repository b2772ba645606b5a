import KernelControls.Proofs.Backends.Auditing

/-!
# Batches isolate failures

Saving at a commit, writing back at a cancel, resetting to the defaults and restoring a family are
four loops over the controls of a family.  All of them attempt every control once and in order, take
nothing back and skip nothing when one is refused, and report the refused ones by name and no other.

## Strategy

The contract is one for writes and one for savings, `IsolatesWrites` and `IsolatesSaves`: there are
answers to all items which tell what was attempted, what is left, and what is reported.  That a
batch keeps it is `answersOf` put together with `WritesEach` and `SavesEach`.  Each of the four
operations then is such a batch: restoring reads a value before each write, but no write changes
what is saved, so the values are those from before.
-/

namespace KernelControls

variable {World Place Item : Type} [DecidableEq Place] [NodeAccess (StateM World)]
  [PreferenceAccess (StateM World)] [LawfulBackend World Place]

/-! ## The contract of a batch -/

/-- A batch of writes isolates failures.  Every item was attempted once, in order.  What is left are
the texts of the accepted ones, put on the nodes in this order.  The names reported are those of the
refused ones, in order, so none is reported only if all were accepted. -/
def IsolatesWrites (node : Item → String × String) (name : Item → String) (items : List Item)
    (failed : List String) (before after : Audited World) : Prop :=
  ∃ answered, Answered.requests answered = items ∧ WritesEach node answered before after ∧
    failed = (Answered.refused answered).map name ∧
    (failed = [] → Answered.accepted answered = items)

/-- A batch of savings isolates failures, in the same way. -/
def IsolatesSaves (opening : Opening) (edits : List Edit) (failed : List String)
    (before after : Audited World) : Prop :=
  ∃ answered, Answered.requests answered = edits ∧ SavesEach opening answered before after ∧
    failed = (Answered.refused answered).map Edit.name ∧
    (failed = [] → Answered.accepted answered = edits)

/-- A report that names nothing means that everything was accepted. -/
theorem Answered.accepted_of_clean {name : Item → String} {items : List Item}
    {answered : Answered Item} (hrequests : requests answered = items)
    (hclean : (refused answered).map name = []) : accepted answered = items :=
  (accepted_eq_requests answered (List.map_eq_nil_iff.mp hclean)).trans hrequests

/-- The names of refused edits are those of the answers with a refusal. -/
theorem refusedNames_attemptAll {World Reason : Type}
    (attempt : Edit → StateM World (Except Reason Unit)) (edits : List Edit) (world : World) :
    refusedNames (perform (attemptAll attempt edits) world).1 =
      (Answered.refused (answersOf attempt edits world)).map Edit.name := by
  rw [← map_fst_attemptAll, List.map_map]
  rfl

/-! ## Edits -/

section Edits

variable [AtomicBackend World Place] (edits : List Edit) (world : Audited World)

theorem isolates_writeEdits :
    let written := perform (writeEdits edits) world
    IsolatesWrites Edit.node Edit.name edits written.1 world written.2 := by
  intro written
  have hrequests := requests_answersOf Edit.writeCurrent edits world
  have hnames : written.1 = _ := refusedNames_attemptAll Edit.writeCurrent edits world
  refine ⟨answersOf Edit.writeCurrent edits world, hrequests, ?_, hnames, fun hclean => ?_⟩
  · exact WritesEach.attemptAll (fun edit now _ => .single edit now) edits rfl
  · exact Answered.accepted_of_clean hrequests (hnames ▸ hclean)

theorem isolates_saveEdits {opening : Opening} (hopened : AtomicStore.isOpened world opening) :
    let saved := perform (saveEdits opening edits) world
    IsolatesSaves opening edits saved.1 world saved.2 := by
  intro saved
  have hrequests := requests_answersOf (Edit.save opening) edits world
  have hnames : saved.1 = _ := refusedNames_attemptAll (Edit.save opening) edits world
  refine ⟨answersOf (Edit.save opening) edits world, hrequests, ?_, hnames, fun hclean => ?_⟩
  · exact SavesEach.attemptAll edits hopened
  · exact Answered.accepted_of_clean hrequests (hnames ▸ hclean)

end Edits

/-! ## Restoring -/

/-- The node of a control, with the text of the value that an opening sees. -/
def Scene.restoredNode (seen : Scene Place) (opening : Opening) (control : Control) :
    String × String :=
  (control.path, control.codec.encode (seen.value opening control))

section Restoring

variable [AtomicBackend World Place] (opening : Opening)

/-- Restoring a control is one write, of the value that is saved. -/
theorem writesEach_restoreControl (control : Control) (world : Audited World) :
    let restored := perform (control.restore opening) world
    WritesEach ((scene world).restoredNode opening) [(control, restored.1.isOk)] world
      restored.2 := by
  let looked := (perform (control.saved opening) world).2
  have huntouched : world.Untouched looked :=
    (Audited.undisturbed world).saved control opening world (.refl world)
  have hrun : perform (control.restore opening) world =
      perform (NodeAccess.write ((scene world).restoredNode opening control).1
        ((scene world).restoredNode opening control).2) looked := by
    unfold Control.restore
    rw [perform_bind, answer_saved]
    rfl
  rw [hrun]
  exact .of_untouched huntouched (.single control looked)

/-- A supported family is restored control by control. -/
theorem Family.isolates_restore {family : Family} {world : Audited World}
    (hsupported : (perform family.isSupported world).1 = true) :
    let restored := perform (family.restore opening) world
    ∃ written failures, restored.1 = ⟨family.id, .applied written failures⟩ ∧
      written + failures.length = family.controls.length ∧
      IsolatesWrites ((scene world).restoredNode opening) Control.name family.controls
        (failures.map Prod.fst) world restored.2 := by
  let looked := (perform family.isSupported world).2
  have huntouched : world.Untouched looked :=
    (Audited.undisturbed world).isSupported family world (.refl world)
  let attempt : Control → StateM (Audited World) (Except NodeError Unit) := Control.restore opening
  let answered := answersOf attempt family.controls looked
  have hrequests : Answered.requests answered = family.controls :=
    requests_answersOf attempt family.controls looked
  have hrefused := map_fst_attemptAll attempt family.controls looked
  -- No write of the batch changes what is saved, so every control gets the value from before.
  have hwrites : WritesEach ((scene world).restoredNode opening) answered looked
      (perform (attemptAll attempt family.controls) looked).2 := by
    refine WritesEach.attemptAll (fun control now hsaved => ?_) family.controls
      (congrArg Scene.saved huntouched.scene)
    have hsame : (scene now).restoredNode opening = (scene world).restoredNode opening := by
      funext other
      unfold Scene.restoredNode Scene.value
      rw [hsaved]
    exact hsame ▸ writesEach_restoreControl opening control now
  rcases family.restore_cases opening world with ⟨-, hrun⟩ | ⟨hskipped, -⟩
  case inr => rw [hsupported] at hskipped; cases hskipped
  rw [hrun]
  have hnames : (((perform (attemptAll attempt family.controls) looked).1.map fun entry =>
      (entry.1.name, entry.2)).map Prod.fst) = (Answered.refused answered).map Control.name := by
    rw [← hrefused, List.map_map, List.map_map]
    rfl
  have hcount := Answered.length_accepted_add_refused answered
  rw [hrequests, ← hrefused, List.length_map] at hcount
  refine ⟨_, _, rfl, ?_, answered, hrequests, .of_untouched huntouched hwrites, hnames,
    fun hclean => Answered.accepted_of_clean hrequests (hnames ▸ hclean)⟩
  rw [List.length_map]
  show family.controls.length - (perform (attemptAll attempt family.controls) looked).1.length +
    (perform (attemptAll attempt family.controls) looked).1.length = _
  omega

end Restoring

/-! ## Sessions -/

variable [AtomicBackend World Place]

/-- **Batches isolate failures and report them exactly.**  Let an engine have worked through any
commands, with any catalog, and let nodes and store be in any state by now and refuse whatever they
like.  An open session edits the controls of its family, in order.  Committing it saves the current
values of all of them.  Cancelling it as the last one out writes the captured values of all of them.
Resetting it writes the defaults of all of them, and afterwards the default is the current value of
every one, refused or not.  Restoring a supported family writes the saved values of all its
controls, and counts the written ones.  Each of these attempts every control once and in order,
whichever are refused.  What is left is what the accepted ones make of the state before, and the
names that are reported are those of the refused ones, in order. -/
theorem batches_isolate_failures (catalog : Catalog) (opening : Opening) (commands : List Command)
    (before now : Audited World) (hopened : AtomicStore.isOpened now opening) :
    let engine := (perform ((Engine.start catalog opening).run commands) before).1.2
    (∀ name session, engine.session? name = some session →
      (∃ family, catalog.get? session.family = some family ∧
        session.edits.map Edit.control = family.controls) ∧
      (let committed := perform (engine.closeSession name true) now
        ∃ failed, committed.1.1 = .ok ⟨.committed, failed⟩ ∧
          IsolatesSaves opening session.edits failed now committed.2) ∧
      (engine.isLastOut session = true →
        let cancelled := perform (engine.closeSession name false) now
        ∃ failed, cancelled.1.1 = .ok ⟨.reverted, failed⟩ ∧
          IsolatesWrites Edit.node Edit.name session.reverted failed now cancelled.2) ∧
      (let reset := perform (engine.resetSession name) now
        ∃ failed after, reset.1.1 = .ok failed ∧
          IsolatesWrites Edit.node Edit.name session.previewDefaults.edits failed now reset.2 ∧
          reset.1.2.session? name = some after ∧
          after.edits.map Edit.control = session.edits.map Edit.control ∧
          ∀ edit ∈ after.edits, edit.current = edit.control.default)) ∧
    ∀ family : Family, (perform family.isSupported now).1 = true →
      let restored := perform (family.restore opening) now
      ∃ written failures, restored.1 = ⟨family.id, .applied written failures⟩ ∧
        written + failures.length = family.controls.length ∧
        IsolatesWrites ((scene now).restoredNode opening) Control.name family.controls
          (failures.map Prod.fst) now restored.2 := by
  intro engine
  have hkept := run_keeps_catalog (.start catalog opening) commands before
  have hcatalog : engine.catalog = catalog := hkept.1
  have hopening : engine.opening = opening := hkept.2
  refine ⟨fun name session hopen => ⟨?_, ?_, fun hlast => ?_, ?_⟩, fun family hsupported =>
    Family.isolates_restore opening hsupported⟩
  · obtain ⟨-, family, hfound, -, hcontrols⟩ :=
      (faithful_start catalog opening).run commands before name session hopen
    have hlooked : engine.catalog.get? session.family = catalog.get? session.family := by
      rw [hcatalog]
    exact ⟨family, hlooked ▸ hfound, hcontrols⟩
  · have hsame : session.opening = opening :=
      ((faithful_start catalog opening).run commands before name session hopen).1.trans hopening
    rw [engine.commit_some now hopen, hsame]
    exact ⟨_, rfl, isolates_saveEdits session.edits now hopened⟩
  · rw [engine.closeSession_some now hopen, hlast]
    exact ⟨_, rfl, isolates_writeEdits session.reverted now⟩
  · rw [engine.resetSession_some now hopen]
    refine ⟨_, session.previewDefaults, rfl,
      isolates_writeEdits session.previewDefaults.edits now, ?_, ?_, fun edit hedit => ?_⟩
    · simp
    · unfold Session.previewDefaults
      rw [List.map_map]
      rfl
    · obtain ⟨old, -, rfl⟩ := List.mem_map.mp hedit
      rfl

/-- Three controls on two nodes.  The second attempt is refused, by the store as well as by the
nodes, and the third one is made all the same. -/
theorem gains_refused_in_the_middle :
    let gains : Family := ⟨"gains", "Gains", .session,
      [⟨"left", "/n/left", .linear 2, 0, 9, 1⟩, ⟨"right", "/n/right", .identity, 0, 9, 2⟩,
        ⟨"both", "/n/./left", .identity, 0, 9, 3⟩]⟩
    let bench : Bench := { nodes := [("/n/left", "0"), ("/n/right", "0")] }
    let commands : List Command :=
      [.openSession "editor" "gains" none, .setLive "editor" "right" 7]
    let before : Audited (Refusing Bench) := { world := ⟨[], bench⟩ }
    let now : Audited (Refusing Bench) := { world := ⟨[false, true], bench⟩ }
    let engine := (perform ((Engine.start ⟨[gains]⟩ 0).run commands) before).1.2
    let committed := perform (engine.closeSession "editor" true) now
    let restored := perform (gains.restore 0) now
    committed.1.1 = .ok ⟨.committed, ["right"]⟩ ∧
      committed.2.saves = [(("/n/left", 1), true), (("/n/right", 7), false),
        (("/n/./left", 3), true)] ∧
      (∃ edits, IsolatesSaves 0 edits ["right"] now committed.2) ∧
      restored.1 =
        ⟨"gains", .applied 2 [("right", .unwritable "/n/right" .permissionDenied)]⟩ ∧
      restored.2.world.world.nodes = [("/n/left", "3"), ("/n/right", "0")] ∧
      IsolatesWrites ((scene now).restoredNode 0) Control.name gains.controls ["right"] now
        restored.2 := by
  intro gains bench commands before now engine committed restored
  obtain ⟨hsessions, hfamilies⟩ := batches_isolate_failures ⟨[gains]⟩ 0 commands before now trivial
  obtain ⟨session, hsession⟩ : ∃ session, engine.session? "editor" = some session :=
    Option.isSome_iff_exists.mp (by decide +kernel)
  obtain ⟨-, ⟨failed, hcommitted, hsaves⟩, -⟩ := hsessions "editor" session hsession
  have hanswer : committed.1.1 = .ok ⟨.committed, ["right"]⟩ := by decide +kernel
  obtain rfl : failed = ["right"] :=
    (Closing.mk.inj (Except.ok.inj (hcommitted.symm.trans hanswer))).2
  obtain ⟨written, failures, houtcome, -, hwrites⟩ := hfamilies gains (by decide +kernel)
  have hreport : restored.1 =
      ⟨"gains", .applied 2 [("right", .unwritable "/n/right" .permissionDenied)]⟩ := by
    decide +kernel
  obtain ⟨-, happlied⟩ := FamilyOutcome.mk.inj (houtcome.symm.trans hreport)
  obtain ⟨-, rfl⟩ := Outcome.applied.inj happlied
  exact ⟨hanswer, by decide +kernel, ⟨session.edits, hsaves⟩, hreport, by decide +kernel, hwrites⟩

end KernelControls
