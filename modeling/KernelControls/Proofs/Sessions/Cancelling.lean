import KernelControls.Proofs.Sessions.Editor

/-!
# Cancelled sessions leave no trace

Any number of sessions of one editor open, preview and end without being committed.  When the
last one is given up and its writes are accepted, the nodes show what they showed before the
first one was opened.

## Strategy

As long as nothing is committed, every session captures the same values, and only nodes of the
family are written: that is `Editor.Undoable`, and no refused write can break it.  So it does
not matter which session is the last one out, nor what those before it left on the nodes:
`Undoable.giveUp` puts back every text that can have changed.
-/

namespace KernelControls

namespace Editor

variable {World Place : Type} [DecidableEq Place] [NodeAccess (StateM World)]
  [PreferenceAccess (StateM World)] [LawfulBackend World Place]
  {editor : Editor} {engine : Engine} {start : Scene Place} {world : World}

/-- What an editor can have done to a scene without committing: the store is as it was, the
nodes are too but for those of the family, and every session captured the values of then. -/
structure Undoable (editor : Editor) (start : Scene Place) (engine : Engine)
    (seen : Scene Place) : Prop where
  runs : editor.Runs engine
  saved : seen.saved = start.saved
  outside : seen.tree.EqOutside editor.paths start.tree
  captured : ∀ name session, editor.names name → engine.session? name = some session →
    session.edits.map Edit.captured =
      editor.family.controls.map (start.value engine.opening)

/-- One command that previews or gives up. -/
theorem Undoable.step (undoable : editor.Undoable start engine (scene world)) {command : Command}
    (hserves : command.Serves editor) (hpreviews : command.previews = true) :
    editor.Undoable start (perform (engine.step command) world).1.2
      (scene (perform (engine.step command) world).2) := by
  have hwrites := writes_step engine hpreviews world
  refine ⟨undoable.runs.step hserves world, hwrites.saved.trans undoable.saved,
    hwrites.eqOutside (undoable.runs.paths_of_shows hserves) undoable.outside, ?_⟩
  intro name session hname hopen
  rw [(step_keeps_catalog engine command world).2]
  rcases undoable.runs.session?_step hserves world hopen with ⟨earlier, hbefore, hframe⟩ | rfl
  · rw [hframe.captured]
    exact undoable.captured name earlier hname hbefore
  · -- A new session captures what the store holds now, which is what it held at the start.
    show (editor.family.controls.map _).map Edit.captured = _
    rw [List.map_map]
    refine List.map_congr_left fun control _ => ?_
    show (scene world).value engine.opening control = start.value engine.opening control
    unfold Scene.value
    rw [undoable.saved]

theorem Undoable.run (undoable : editor.Undoable start engine (scene world))
    {commands : List Command}
    (hcommands : ∀ command ∈ commands, command.Serves editor ∧ command.previews = true) :
    editor.Undoable start (perform (engine.run commands) world).1.2
      (scene (perform (engine.run commands) world).2) := by
  induction commands generalizing engine world with
  | nil => exact undoable
  | cons command rest ih =>
      have ⟨hserves, hpreviews⟩ := hcommands command List.mem_cons_self
      have hrest : ∀ later ∈ rest, later.Serves editor ∧ later.previews = true :=
        fun later hlater => hcommands later (List.mem_cons_of_mem _ hlater)
      rw [engine.run_cons]
      exact ih (undoable.step hserves hpreviews) hrest

/-- The last one out undoes everything, whichever session it is. -/
theorem Undoable.giveUp (undoable : editor.Undoable start engine (scene world))
    (hagrees : start.Agrees engine.opening editor.family.controls) {name : String}
    {session : Session} (hname : editor.names name) (hopen : engine.session? name = some session)
    (hlast : engine.isLastOut session = true)
    (hwell : engine.goesWell world (.cancel name) = true) :
    scene (perform (engine.closeSession name false) world).2 = start := by
  have hwrites := writes_giveUp engine name world
  have hshows : engine.shows (.cancel name) =
      start.capture engine.opening editor.family.controls := by
    simp only [Engine.shows, hopen, hlast, if_pos]
    exact Session.reverted_eq_capture (undoable.runs.controls name session hname hopen)
      (undoable.captured name session hname hopen)
  have hpaths : ((engine.shows (.cancel name)).map Edit.node).map Prod.fst = editor.paths := by
    rw [paths_nodes, hshows, Scene.capture, List.map_map, List.map_map]
    rfl
  have htree : (scene (perform (engine.closeSession name false) world).2).tree = start.tree := by
    rw [hwrites.accepted hwell]
    -- What is put back is what the scene showed at the start, where it may have changed.
    refine NodeTree.putAll_eq_of_eqOutside (fun node hnode => ?_) (hpaths ▸ undoable.outside)
    rw [hshows, Scene.capture, List.map_map] at hnode
    obtain ⟨control, hcontrol, rfl⟩ := List.mem_map.mp hnode
    exact hagrees control hcontrol
  have hsaved := hwrites.saved.trans undoable.saved
  calc scene (perform (engine.closeSession name false) world).2
      = ⟨(scene (perform (engine.closeSession name false) world).2).tree,
          (scene (perform (engine.closeSession name false) world).2).saved⟩ := rfl
    _ = ⟨start.tree, start.saved⟩ := by rw [htree, hsaved]

end Editor

variable {World Place : Type} [DecidableEq Place] [NodeAccess (StateM World)]
  [PreferenceAccess (StateM World)] [LawfulBackend World Place]

/-- **Cancelled sessions leave no trace.**  Start where no session of the editor is open and
the nodes of its family hold the texts of their saved values.  Let sessions open, preview and
be given up in any order, with any of their writes refused.  When the end of a session brings
the count of the coordinator to zero, and the writes of this last reverting are accepted, then
every node and every saved value is as at the start.  Nothing is asked of the count at the
start, so the editor may even come to a coordinator that others use. -/
theorem cancelled_leaves_no_trace (editor : Editor) (engine : Engine) (world : World)
    (tidy : engine.Tidy) (hknown : engine.catalog.get? editor.family.id = some editor.family)
    (hfree : ∀ name, editor.names name → engine.session? name = none)
    (hagrees : (scene world).Agrees engine.opening editor.family.controls)
    (commands : List Command)
    (hcommands : ∀ command ∈ commands, command.Serves editor ∧ command.previews = true)
    (name : String) (hname : editor.names name) (ending : Command)
    (hending : ending = .cancel name ∨ ending = .drop name) :
    let ran := perform (engine.run commands) world
    let ended := perform (ran.1.2.step ending) ran.2
    ran.1.2.session? name ≠ none → ended.1.2.coordinators.openCount editor.coordinator = 0 →
      ran.1.2.goesWell ran.2 ending = true → scene ended.2 = scene world := by
  intro ran ended hopen hcount hwell
  have hstart : editor.Undoable (scene world) engine (scene world) :=
    ⟨.start tidy hknown hfree, rfl, .refl _ _, fun name session hname hopen => by
      rw [hfree name hname] at hopen; cases hopen⟩
  have undoable : editor.Undoable (scene world) ran.1.2 (scene ran.2) := hstart.run hcommands
  obtain ⟨session, hsession⟩ := Option.ne_none_iff_exists'.mp hopen
  have hopening : ran.1.2.opening = engine.opening := (run_keeps_catalog engine commands world).2
  -- Cancelling and dropping differ in their answers alone.
  have hended : ended.1.2 = ran.1.2.withoutSession name session ∧
      scene ended.2 = scene (perform (ran.1.2.closeSession name false) ran.2).2 ∧
      ran.1.2.goesWell ran.2 (.cancel name) = true := by
    have hclosed := congrArg (fun result => result.1.2)
      (ran.1.2.closeSession_some ran.2 hsession false)
    rcases hending with rfl | rfl
    · exact ⟨hclosed, rfl, hwell⟩
    · exact ⟨hclosed, rfl, hwell⟩
  obtain ⟨hengine, hscene, hwell⟩ := hended
  have hcoordinator := undoable.runs.coordinator name session hname hsession
  have hlast : ran.1.2.isLastOut session = true := by
    rw [undoable.runs.tidy.isLastOut_iff hsession, hcoordinator, ← hengine]
    exact hcount
  rw [hscene]
  exact undoable.giveUp (hopening ▸ hagrees) hname hsession hlast hwell

/-- A session that was given up leaves its preview to its sibling, which undoes both. -/
theorem vibration_previews_undone :
    let engine := Engine.start .builtin 0
    let bench : Bench :=
      { nodes := [("/sys/class/timed_output/vibrator/pwm_value", "50"), ("/proc/uptime", "7")] }
    let commands : List Command :=
      [.openSession "first" "vibration" none, .setLive "first" "intensity" 70,
        .openSession "second" "vibration" none, .cancel "first",
        .setLive "second" "amplitude" 3, .setLive "second" "intensity" (-9)]
    scene (perform (engine.run commands) bench).2 ≠ scene bench ∧
      scene (perform ((perform (engine.run commands) bench).1.2.step (.drop "second"))
        (perform (engine.run commands) bench).2).2 = scene bench := by
  intro engine bench commands
  have hshown : (scene (perform (engine.run commands) bench).2).tree.look
        "/sys/class/timed_output/vibrator/pwm_value" ≠
      (scene bench).tree.look "/sys/class/timed_output/vibrator/pwm_value" := by decide +kernel
  refine ⟨fun hsame => hshown (by rw [hsame]), ?_⟩
  have hagrees : (scene bench).Agrees engine.opening Family.vibration.controls := by
    decide +kernel
  have hcommands : ∀ command ∈ commands,
      command.Serves ⟨.vibration, .shared "vibration", fun _ => True⟩ ∧
        command.previews = true := by
    simp [commands, Command.Serves, Command.previews, Family.vibration]
  exact cancelled_leaves_no_trace ⟨.vibration, .shared "vibration", fun _ => True⟩ engine bench
    (tidy_start _ _) (by decide +kernel) (fun _ _ => rfl) hagrees commands hcommands "second"
    trivial (.drop "second") (.inr rfl) (by decide +kernel) (by decide +kernel) (by decide +kernel)

end KernelControls
