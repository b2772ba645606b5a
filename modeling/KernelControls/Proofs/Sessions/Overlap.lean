import KernelControls.Proofs.Sessions.Editor

/-!
# Nodes and saved values of overlapping sessions

Sessions of one editor may overlap in any way, some committed and some given up.  While they are
open a node shows the value that was put there last.  When none is open any more, nodes and
saved values agree, provided the last one out was in step with its siblings.

## Strategy

A `Standing` is a history of a run: the value last shown for every control, and whether the
last one out was in step.  A session that commits is in step if its values are the ones last
shown; a session that is given up is in step if the values it captured are still the saved
ones.  `Editor.Displays` ties the standing to the nodes, and to the saved values whenever nothing
is open.  The count can only become zero with an ending, by `Runs.idle_cases`, and an ending
that brings it to zero is that of the last one out.
-/

namespace KernelControls

/-! ## Standings -/

/-- The session that a command ends as the last one out. -/
def Engine.lastOut? (engine : Engine) : Command → Option Session
  | .commit name | .cancel name | .drop name => (engine.session? name).filter engine.isLastOut
  | _ => none

/-- Whether a session that a command ends is in step with its siblings.  Values count as the
same when their nodes hold the same text. -/
def Session.isInStep {Place : Type} (session : Session) (shown : Control → Int64)
    (seen : Scene Place) : Command → Bool
  | .commit _ => session.edits.all fun edit =>
    edit.control.codec.encode edit.current = edit.control.codec.encode (shown edit.control)
  | _ => session.edits.all fun edit =>
    edit.control.codec.encode edit.captured =
      edit.control.codec.encode (seen.value session.opening edit.control)

/-- The values shown after a batch of edits. -/
def showing (shown : Control → Int64) : List Edit → Control → Int64
  | [] => shown
  | edit :: rest => showing (Function.update shown edit.control edit.current) rest

/-- What a run has shown so far, and whether the last one out was in step. -/
structure Standing where
  shown : Control → Int64
  inStep : Bool

namespace Standing

/-- Where a run starts: the nodes show the saved values. -/
def start {Place : Type} (seen : Scene Place) (opening : Opening) : Standing :=
  ⟨seen.value opening, true⟩

/-- The standing after a command. -/
def after {Place : Type} (standing : Standing) (engine : Engine) (seen : Scene Place)
    (command : Command) : Standing where
  shown := showing standing.shown (engine.shows command)
  inStep :=
    match engine.lastOut? command with
    | some session => session.isInStep standing.shown seen command
    | none => standing.inStep

end Standing

variable {World Place : Type} [DecidableEq Place] [NodeAccess (StateM World)]
  [PreferenceAccess (StateM World)]

/-- Whether no write and no saving of sessions is refused in a run. -/
def Engine.allGoWell (engine : Engine) : List Command → World → Bool
  | [], _ => true
  | command :: rest, world =>
    let next := perform (engine.step command) world
    engine.goesWell world command && next.1.2.allGoWell rest next.2

variable [LawfulBackend World Place]

/-- The standing after a run. -/
def Standing.afterAll (standing : Standing) (engine : Engine) : List Command → World → Standing
  | [], _ => standing
  | command :: rest, world =>
    let next := perform (engine.step command) world
    (standing.after engine (scene world) command).afterAll next.1.2 rest next.2

/-! ## What batches show -/

theorem showing_of_notMem (shown : Control → Int64) {edits : List Edit} {control : Control}
    (hcontrol : control ∉ edits.map Edit.control) :
    showing shown edits control = shown control := by
  induction edits generalizing shown with
  | nil => rfl
  | cons edit rest ih =>
      rw [List.map_cons, List.mem_cons, not_or] at hcontrol
      rw [showing, ih _ hcontrol.2, Function.update_of_ne hcontrol.1]

theorem showing_of_mem (shown : Control → Int64) {edits : List Edit}
    (hcontrols : (edits.map Edit.control).Nodup) {edit : Edit} (hedit : edit ∈ edits) :
    showing shown edits edit.control = edit.current := by
  induction edits generalizing shown with
  | nil => cases hedit
  | cons first rest ih =>
      have ⟨hfirst, hrest⟩ := List.nodup_cons.mp hcontrols
      rcases List.mem_cons.mp hedit with rfl | hlater
      · rw [showing, showing_of_notMem _ hfirst, Function.update_self]
      · exact ih _ hrest hlater

/-- Controls with places of their own show what a batch of their edits shows. -/
theorem look_putAll_showing {tree : NodeTree Place} {controls : List Control}
    (hdistinct : (controls.map fun control => tree.place control.path).Nodup)
    {shown : Control → Int64}
    (hshown : ∀ control ∈ controls,
      tree.look control.path = .text (control.codec.encode (shown control)))
    {edits : List Edit} (hedits : ∀ edit ∈ edits, edit.control ∈ controls) :
    ∀ control ∈ controls, (tree.putAll (edits.map Edit.node)).look control.path =
      .text (control.codec.encode (showing shown edits control)) := by
  induction edits generalizing tree shown with
  | nil => exact hshown
  | cons edit rest ih =>
      have hedit := hedits edit List.mem_cons_self
      -- A text changes no place, so the rest is put on controls that are still apart.
      have hkept : (controls.map fun control =>
        (tree.put edit.node.1 edit.node.2).place control.path).Nodup := hdistinct
      refine ih hkept (fun control hcontrol => ?_) fun later hlater =>
        hedits later (List.mem_cons_of_mem _ hlater)
      show (tree.put _ _).sight (tree.place control.path) = _
      rw [NodeTree.sight_put]
      by_cases hsame : control = edit.control
      · rw [hsame, Function.update_self]
        exact if_pos rfl
      · -- Another control has another place.
        have hplace : tree.place control.path ≠ tree.place edit.node.1 := fun h =>
          hsame (List.inj_on_of_nodup_map hdistinct hcontrol hedit h)
        rw [if_neg hplace, Function.update_of_ne hsame]
        exact hshown control hcontrol

/-! ## When nothing is open -/

namespace Editor

variable {editor : Editor} {engine : Engine} {world : World} {command : Command}

/-- The coordinator counts every open session of the editor. -/
theorem Runs.openCount_ne_zero (runs : editor.Runs engine) {name : String} {session : Session}
    (hname : editor.names name) (hopen : engine.session? name = some session) :
    engine.coordinators.openCount editor.coordinator ≠ 0 := by
  rw [← runs.coordinator name session hname hopen]
  exact runs.tidy.openCount_ne_zero hopen

/-- Where nothing is open after an ending, the name had no session and nothing was open before, or
it was the last one out. -/
theorem Runs.idle_of_close (runs : editor.Runs engine) {name : String} (hname : editor.names name)
    (accepted : Bool)
    (hcount : (perform (engine.closeSession name accepted) world).1.2.coordinators.openCount
      editor.coordinator = 0) :
    (engine.session? name = none ∧ engine.coordinators.openCount editor.coordinator = 0 ∧
      (perform (engine.closeSession name accepted) world).2 = world) ∨
    ∃ session, engine.session? name = some session ∧ engine.isLastOut session = true := by
  cases hopen : engine.session? name with
  | none =>
      rw [engine.closeSession_none world hopen] at hcount ⊢
      exact .inl ⟨rfl, hcount, rfl⟩
  | some session =>
      rw [engine.closeSession_some world hopen] at hcount
      refine .inr ⟨session, rfl, ?_⟩
      rw [runs.tidy.isLastOut_iff hopen, runs.coordinator name session hname hopen]
      exact hcount

/-- Where nothing is open after a command, nothing was open before and the command did nothing,
or it ended the last one out: by saving, or by showing what that one captured. -/
theorem Runs.idle_cases (runs : editor.Runs engine) (hserves : command.Serves editor)
    (hcount : (perform (engine.step command) world).1.2.coordinators.openCount
      editor.coordinator = 0) :
    (engine.coordinators.openCount editor.coordinator = 0 ∧ engine.shows command = [] ∧
      engine.lastOut? command = none ∧
      (scene (perform (engine.step command) world).2).saved = (scene world).saved) ∨
    ∃ name session, editor.names name ∧ engine.session? name = some session ∧
      engine.lastOut? command = some session ∧
      (command = .commit name ∨ engine.shows command = session.reverted ∧
        command ≠ .commit name) := by
  by_cases hasks : command.asks = true
  · have ⟨hengine, hscene⟩ := step_of_asks engine world hasks
    rw [hengine] at hcount
    rw [hscene]
    cases command <;> first | exact .inl ⟨hcount, rfl, rfl, rfl⟩ | cases hasks
  cases command with
  | openSession name id coordinator =>
      obtain ⟨-, -, hcoordinator⟩ := hserves
      rw [engine.step_openSession] at hcount ⊢
      have hpreviews : (Command.openSession name id coordinator).previews = true := rfl
      have hlooks := writes_step engine hpreviews world
      rcases engine.openSession_cases world name id coordinator with
        ⟨error, after, hrun, -⟩ | ⟨family, -, -, hrun⟩
      · rw [hrun] at hcount
        exact .inl ⟨hcount, rfl, rfl, hlooks.saved⟩
      · -- The new session is counted, so something is open.
        rw [hrun] at hcount
        refine absurd hcount ?_
        show (engine.coordinators.setCount _ _).openCount editor.coordinator ≠ 0
        rw [Coordinators.openCount_setCount, if_pos]
        · exact Nat.succ_ne_zero _
        · exact hcoordinator.symm
  | setLive name control value =>
      rw [engine.step_setLive] at hcount ⊢
      cases hopen : engine.session? name with
      | none =>
          rw [engine.setLive_none world hopen] at hcount ⊢
          exact .inl ⟨hcount, by simp only [Engine.shows, hopen], rfl, rfl⟩
      | some session =>
          refine absurd ?_ (runs.openCount_ne_zero hserves hopen)
          -- Previews leave the count, which the open session keeps from being zero.
          cases hknown : session.edit? control with
          | none => rw [engine.setLive_unknown world hopen hknown] at hcount; exact hcount
          | some edit => rw [engine.setLive_known world hopen hknown] at hcount; exact hcount
  | resetSession name =>
      rw [engine.step_resetSession] at hcount ⊢
      cases hopen : engine.session? name with
      | none =>
          rw [engine.resetSession_none world hopen] at hcount ⊢
          exact .inl ⟨hcount, by simp only [Engine.shows, hopen], rfl, rfl⟩
      | some session =>
          refine absurd ?_ (runs.openCount_ne_zero hserves hopen)
          rw [engine.resetSession_some world hopen] at hcount
          exact hcount
  | commit name =>
      rcases runs.idle_of_close hserves true hcount with
        ⟨hnone, hidle, hworld⟩ | ⟨session, hopen, hlast⟩
      · refine .inl ⟨hidle, rfl, by simp only [Engine.lastOut?, hnone, Option.filter_none], ?_⟩
        exact congrArg (fun world => (scene world).saved) hworld
      · refine .inr ⟨name, session, hserves, hopen, ?_, .inl rfl⟩
        simp only [Engine.lastOut?, hopen, Option.filter_some, hlast, if_true]
  | cancel name | drop name =>
      rcases runs.idle_of_close hserves false hcount with
        ⟨hnone, hidle, hworld⟩ | ⟨session, hopen, hlast⟩
      · refine .inl ⟨hidle, by simp only [Engine.shows, hnone],
          by simp only [Engine.lastOut?, hnone, Option.filter_none], ?_⟩
        exact congrArg (fun world => (scene world).saved) hworld
      · refine .inr ⟨name, session, hserves, hopen, ?_, .inr ⟨?_, Command.noConfusion⟩⟩
        · simp only [Engine.lastOut?, hopen, Option.filter_some, hlast, if_true]
        · simp only [Engine.shows, hopen, hlast, if_true]
  | openTicket name coordinator =>
      refine .inl ⟨?_, rfl, rfl, rfl⟩
      -- Kept tickets are of other coordinators, so the count is untouched.
      replace hcount : (engine.coordinators.setCount coordinator _).openCount editor.coordinator =
        0 := hcount
      rwa [Coordinators.openCount_setCount, if_neg (Ne.symm hserves)] at hcount
  | closeTicket name coordinator =>
      refine .inl ⟨?_, rfl, rfl, rfl⟩
      rw [← hcount]
      exact (engine.openCount_closeTicket (Ne.symm hserves)).symm
  | applyDirect | writeLine | restore | restoreFamily => cases hserves
  | _ => exact absurd rfl hasks

/-! ## The standing tells what is seen -/

/-- What a run of an editor keeps: the nodes show its standing, and when nothing is open and the
last one out was in step, so do the saved values. -/
structure Displays (editor : Editor) (engine : Engine) (seen : Scene Place)
    (standing : Standing) : Prop where
  runs : editor.Runs engine
  distinct : (editor.family.controls.map fun control => seen.tree.place control.path).Nodup
  shown : ∀ control ∈ editor.family.controls,
    seen.tree.look control.path = .text (control.codec.encode (standing.shown control))
  settled : engine.coordinators.openCount editor.coordinator = 0 → standing.inStep = true →
    ∀ control ∈ editor.family.controls,
      control.codec.encode (standing.shown control) =
        control.codec.encode (seen.value engine.opening control)

variable {standing : Standing}

theorem Displays.agrees {Place : Type} {seen : Scene Place}
    (displays : editor.Displays engine seen standing)
    (hidle : engine.coordinators.openCount editor.coordinator = 0)
    (hinStep : standing.inStep = true) :
    seen.Agrees engine.opening editor.family.controls := by
  intro control hcontrol
  rw [displays.shown control hcontrol, displays.settled hidle hinStep control hcontrol]

theorem Runs.exists_edit (runs : editor.Runs engine) {name : String} {session : Session}
    (hname : editor.names name) (hopen : engine.session? name = some session) {control : Control}
    (hcontrol : control ∈ editor.family.controls) :
    ∃ edit ∈ session.edits, edit.control = control := by
  rw [← runs.controls name session hname hopen] at hcontrol
  exact List.mem_map.mp hcontrol

/-- Commands that save nothing: the nodes follow the standing by the batch of edits, and a last
one out in step leaves the values that are saved. -/
theorem Displays.preview (displays : editor.Displays engine (scene world) standing)
    (hserves : command.Serves editor) (hpreviews : command.previews = true)
    (hwell : engine.goesWell world command = true) :
    editor.Displays (perform (engine.step command) world).1.2
      (scene (perform (engine.step command) world).2)
      (standing.after engine (scene world) command) := by
  have hwrites := writes_step engine hpreviews world
  -- Nothing is saved, so the saved values are read as before.
  have hvalue : ∀ control, (scene (perform (engine.step command) world).2).value
      engine.opening control = (scene world).value engine.opening control := by
    intro control
    unfold Scene.value
    rw [hwrites.saved]
  refine ⟨displays.runs.step hserves world, ?_, ?_, fun hcount hinStep control hcontrol => ?_⟩
  · rw [hwrites.outside.place]
    exact displays.distinct
  · rw [hwrites.accepted hwell]
    exact look_putAll_showing displays.distinct displays.shown fun edit =>
      displays.runs.control_mem_of_shows hserves
  rw [(step_keeps_catalog engine command world).2, hvalue]
  unfold Standing.after at hinStep ⊢
  rcases displays.runs.idle_cases hserves hcount with
    ⟨hidle, hshows, hlast, -⟩ | ⟨name, session, hname, hopen, hlast, rfl | ⟨hshows, hcommit⟩⟩
  · simp only [hshows, hlast] at hinStep ⊢
    exact displays.settled hidle hinStep control hcontrol
  · cases hpreviews
  · -- What the last one out captured is shown, and in step it is what is saved.
    simp only [hshows, hlast] at hinStep ⊢
    obtain ⟨edit, hedit, rfl⟩ := displays.runs.exists_edit hname hopen hcontrol
    have hcontrols : (session.reverted.map Edit.control).Nodup := by
      rw [session.control_reverted, displays.runs.controls name session hname hopen]
      exact displays.distinct.of_map _
    have hcaptured : showing standing.shown session.reverted edit.control = edit.captured :=
      showing_of_mem _ hcontrols (List.mem_map_of_mem hedit)
    rw [hcaptured, ← displays.runs.opening name session hname hopen]
    cases command with
    | commit other => cases hpreviews
    | _ => exact of_decide_eq_true (List.all_eq_true.mp hinStep edit hedit)

/-- A commit: the nodes stay, and if its values are those last shown, they are those saved. -/
theorem Displays.commit (displays : editor.Displays engine (scene world) standing) {name : String}
    (hname : editor.names name) (hwell : engine.goesWell world (.commit name) = true) :
    editor.Displays (perform (engine.step (.commit name)) world).1.2
      (scene (perform (engine.step (.commit name)) world).2)
      (standing.after engine (scene world) (.commit name)) := by
  have hserves : (Command.commit name).Serves editor := hname
  have hruns := displays.runs.step hserves world
  cases hopen : engine.session? name with
  | none =>
      -- There is nothing to commit, and the standing does not move either.
      have hrun : perform (engine.step (.commit name)) world =
          ((.refused .noSession, engine), world) := by
        rw [engine.step_commit, engine.closeSession_none world hopen]
        rfl
      have hstanding : standing.after engine (scene world) (.commit name) = standing := by
        unfold Standing.after
        simp only [Engine.shows, Engine.lastOut?, hopen, Option.filter_none]
        rfl
      rw [hrun, hstanding]
      exact displays
  | some session =>
      have hclose := engine.commit_some world hopen
      have hedits := displays.runs.controls name session hname hopen
      have hopening := displays.runs.opening name session hname hopen
      have hafter : (perform (engine.step (.commit name)) world).2 =
          (perform (saveEdits session.opening session.edits) world).2 := by
        rw [engine.step_commit, hclose]
      have haccepted : (perform (saveEdits session.opening session.edits) world).1 = [] := by
        unfold Engine.goesWell at hwell
        simp only [hclose] at hwell
        exact List.isEmpty_iff.mp hwell
      -- Distinct places have distinct paths, so no saving of the batch undoes another.
      have hkeys := nodup_keys_of_places _ hedits displays.distinct
      have hsaved := (saveEdits_saved world session.opening hkeys haccepted).1
      rw [← hafter] at hsaved
      have htree := saveEdits_tree world session.opening session.edits
      rw [← hafter] at htree
      refine ⟨hruns, by rw [htree]; exact displays.distinct, fun control hcontrol => ?_,
        fun hcount hinStep control hcontrol => ?_⟩
      · rw [htree]
        exact displays.shown control hcontrol
      · rw [(step_keeps_catalog engine (.commit name) world).2]
        obtain ⟨edit, hedit, rfl⟩ := displays.runs.exists_edit hname hopen hcontrol
        have hvalue : (scene (perform (engine.step (.commit name)) world).2).value engine.opening
            edit.control = edit.current := by
          unfold Scene.value
          rw [← hopening, hsaved edit hedit]
          rfl
        rw [hvalue]
        rcases displays.runs.idle_cases hserves hcount with
          ⟨hidle, -⟩ | ⟨other, found, -, -, hlast, -⟩
        · -- The session was counted until now.
          exact absurd hidle (displays.runs.openCount_ne_zero hname hopen)
        · -- It was the last one out: in step, its values are those last shown.
          obtain ⟨hfound, -⟩ := Option.filter_eq_some_iff.mp hlast
          obtain rfl : session = found := Option.some.inj (hopen.symm.trans hfound)
          unfold Standing.after at hinStep ⊢
          simp only [hlast] at hinStep
          exact (of_decide_eq_true (List.all_eq_true.mp hinStep edit hedit)).symm

theorem Displays.step (displays : editor.Displays engine (scene world) standing)
    (hserves : command.Serves editor) (hwell : engine.goesWell world command = true) :
    editor.Displays (perform (engine.step command) world).1.2
      (scene (perform (engine.step command) world).2)
      (standing.after engine (scene world) command) := by
  by_cases hpreviews : command.previews = true
  · exact displays.preview hserves hpreviews hwell
  · cases command with
    | commit name => exact displays.commit hserves hwell
    | applyDirect | writeLine | restore | restoreFamily => cases hserves
    | _ => exact absurd rfl hpreviews

theorem Displays.run {commands : List Command}
    (displays : editor.Displays engine (scene world) standing)
    (hserves : ∀ command ∈ commands, command.Serves editor)
    (hwell : engine.allGoWell commands world = true) :
    editor.Displays (perform (engine.run commands) world).1.2
      (scene (perform (engine.run commands) world).2)
      (standing.afterAll engine commands world) := by
  induction commands generalizing engine world standing with
  | nil => exact displays
  | cons command rest ih =>
      have ⟨hfirst, hrest⟩ := Bool.and_eq_true_iff.mp hwell
      have hnow := displays.step (hserves command List.mem_cons_self) hfirst
      rw [engine.run_cons]
      exact ih hnow (fun later hlater => hserves later (List.mem_cons_of_mem _ hlater)) hrest

end Editor

/-- **Nodes and saved values of overlapping sessions.**  Start where no session of the editor is
open, the nodes of its family are all different, and each holds the text of its saved value.
Let sessions open, preview, commit and be given up in any order, with nothing refused.  Then at
every point a node holds the text of the value last shown for its control, and whenever
nothing is open and the last one out was in step, that is the text of the saved value. -/
theorem overlapping_sessions_agree (editor : Editor) (engine : Engine) (world : World)
    (tidy : engine.Tidy) (hknown : engine.catalog.get? editor.family.id = some editor.family)
    (hfree : ∀ name, editor.names name → engine.session? name = none)
    (hdistinct : (editor.family.controls.map fun control =>
      (scene world).tree.place control.path).Nodup)
    (hagrees : (scene world).Agrees engine.opening editor.family.controls)
    (commands : List Command) (hserves : ∀ command ∈ commands, command.Serves editor)
    (hwell : engine.allGoWell commands world = true) :
    let ran := perform (engine.run commands) world
    let standing := (Standing.start (scene world) engine.opening).afterAll engine commands world
    (∀ control ∈ editor.family.controls, (scene ran.2).tree.look control.path =
      .text (control.codec.encode (standing.shown control))) ∧
    (ran.1.2.coordinators.openCount editor.coordinator = 0 → standing.inStep = true →
      (scene ran.2).Agrees engine.opening editor.family.controls) := by
  intro ran standing
  have hstart : editor.Displays engine (scene world) (.start (scene world) engine.opening) :=
    ⟨.start tidy hknown hfree, hdistinct, hagrees, fun _ _ _ _ => rfl⟩
  have displays : editor.Displays ran.1.2 (scene ran.2) standing := hstart.run hserves hwell
  refine ⟨displays.shown, fun hidle hinStep => ?_⟩
  have hopening : ran.1.2.opening = engine.opening := (run_keeps_catalog engine commands world).2
  exact hopening ▸ displays.agrees hidle hinStep

/-- Two sessions that overlap, the one given up and the other committed in step. -/
theorem vibration_commit_agrees :
    let engine := Engine.start .builtin 0
    let bench : Bench := { nodes := [("/sys/class/timed_output/vibrator/pwm_value", "50")] }
    let commands : List Command :=
      [.openSession "first" "vibration" none, .openSession "second" "vibration" none,
        .setLive "first" "intensity" 70, .cancel "first", .setLive "second" "intensity" 30,
        .commit "second"]
    (scene (perform (engine.run commands) bench).2).Agrees 0 Family.vibration.controls := by
  intro engine bench commands
  have hserves : ∀ command ∈ commands,
      command.Serves ⟨.vibration, .shared "vibration", fun _ => True⟩ := by
    simp [commands, Command.Serves, Family.vibration]
  have hboth := overlapping_sessions_agree ⟨.vibration, .shared "vibration", fun _ => True⟩ engine
    bench (tidy_start _ _) (by decide +kernel) (fun _ _ => rfl) (by decide +kernel)
    (by decide +kernel) commands hserves (by decide +kernel)
  exact hboth.2 (by decide +kernel) (by decide +kernel)

/-- A session that is given up last, after a sibling committed, restores what it captured: the
saved value is another one then, although nothing is open and nothing was refused. -/
theorem vibration_stale_revert_disagrees :
    let engine := Engine.start .builtin 0
    let bench : Bench := { nodes := [("/sys/class/timed_output/vibrator/pwm_value", "50")] }
    let commands : List Command :=
      [.openSession "first" "vibration" none, .openSession "second" "vibration" none,
        .setLive "first" "intensity" 70, .commit "first", .cancel "second"]
    let after := perform (engine.run commands) bench
    engine.Tidy ∧ engine.coordinators.openCount (.shared "vibration") = 0 ∧
      (scene bench).Agrees 0 Family.vibration.controls ∧
      (∀ command ∈ commands,
        command.Serves ⟨.vibration, .shared "vibration", fun _ => True⟩) ∧
      engine.allGoWell commands bench = true ∧
      after.1.2.coordinators.openCount (.shared "vibration") = 0 ∧
      ¬ (scene after.2).Agrees 0 Family.vibration.controls := by
  intro engine bench commands after
  refine ⟨tidy_start _ _, rfl, by decide +kernel, ?_, by decide +kernel, by decide +kernel,
    by decide +kernel⟩
  simp [commands, Command.Serves, Family.vibration]

end KernelControls
