import KernelControls.Proofs.Stores.Decisions
import KernelControls.Proofs.Sessions.Instructions

/-!
# Saved values are those of the latest commit

A commit saves every control of the family, edited or not, so what overlapping sessions leave
depends on who opened when and who committed last.  In a family whose keys are its own, the saved
value of a control is at every point the one that the latest commit to save it was showing.  Its
session gave the control this value by its own last edit, or else found it saved when it was opened,
which may have been long before another session saved a newer one.

## Strategy

`Engine.puts` is the edit that a command saves under a key, and `Provenance` the history of a saved
value: nothing was ever put under the key, or a run can be taken apart around the opening of the
session and the commit that put the value.  The law is an induction on the run from its end.  A
command that puts nothing under the key leaves the value (`Serves.saved_step`) and its provenance,
and a commit that puts something starts a new one, because the session that it ends stems from an
opening in the run (`stemsFrom_of_run`) and shows what it was given since (`edits_followAll`).
-/

namespace KernelControls

variable {World : Type} [NodeAccess (StateM World)] [PreferenceAccess (StateM World)]

/-! ## What commits put -/

namespace Engine

/-- The edit that a command saves under a key: the last one of a committed session with this key
whose saving is not refused. -/
def puts (engine : Engine) (world : World) (key : String) : Command → Option Edit
  | .commit name =>
    match engine.session? name with
    | some session =>
      (acceptedAmong (Edit.save session.opening) session.edits world).findRev? (Edit.isAbout key)
    | none => none
  | _ => none

/-- Whether no command of a run puts anything under a key. -/
def neverPuts (key : String) (engine : Engine) : List Command → World → Bool
  | [], _ => true
  | command :: rest, world =>
    let next := perform (engine.step command) world
    (engine.puts world key command).isNone && next.1.2.neverPuts key rest next.2

variable {engine : Engine} {world : World} {key : String}

theorem neverPuts_append (earlier later : List Command) :
    engine.neverPuts key (earlier ++ later) world = (engine.neverPuts key earlier world &&
      let ran := perform (engine.run earlier) world
      ran.1.2.neverPuts key later ran.2) := by
  induction earlier generalizing engine world with
  | nil => rfl
  | cons command rest ih =>
      rw [List.cons_append, neverPuts, neverPuts, ih, Bool.and_assoc]
      rfl

theorem neverPuts_singleton {command : Command} (hnothing : engine.puts world key command = none) :
    engine.neverPuts key [command] world = true := by
  unfold neverPuts
  rw [hnothing]
  rfl

omit [NodeAccess (StateM World)] in
theorem exists_of_puts {command : Command} {edit : Edit}
    (hputs : engine.puts world key command = some edit) :
    ∃ name session, command = .commit name ∧ engine.session? name = some session ∧
      edit ∈ session.edits ∧ edit.control.key = key := by
  cases command with
  | commit name =>
      cases hopen : engine.session? name with
      | none => simp only [puts, hopen] at hputs; cases hputs
      | some session =>
          simp only [puts, hopen] at hputs
          obtain ⟨haccepted, habout⟩ := mem_of_findRev?_eq_some hputs
          exact ⟨name, session, rfl, hopen, (acceptedAmong_sublist _ _ _).subset haccepted,
            Edit.isAbout_iff.mp habout⟩
  | _ => cases hputs

end Engine

/-- One command: under the key of no direct setting, what a commit puts is saved, and without one
nothing changes. -/
theorem Safekeeping.Serves.saved_step {keeping : Safekeeping World} {engine : Engine}
    {world : World} (serves : keeping.Serves engine world) (command : Command) (key : String)
    (hdirect : ∀ id name value family control, command = .applyDirect id name value →
      engine.directControl id name = .ok (family, control) → control.key ≠ key) :
    (keeping.kept (perform (engine.step command) world).2).saved key =
      match engine.puts world key command with
      | some edit => some edit.current
      | none => (keeping.kept world).saved key := by
  -- Whatever the command decides is about other keys, so the key is read as before.
  have hundecided : engine.puts world key command = none →
      (∀ value, (key, value) ∉ engine.decisions world command) →
      (keeping.kept (perform (engine.step command) world).2).saved key =
        match engine.puts world key command with
        | some edit => some edit.current
        | none => (keeping.kept world).saved key := by
    intro hnothing hno
    rw [hnothing]
    exact ((serves.step_decided command).2 key).resolve_right fun ⟨value, hmem, _⟩ => hno value hmem
  cases command with
  | commit name =>
      rw [engine.step_commit]
      cases hopen : engine.session? name with
      | none =>
          rw [engine.closeSession_none world hopen]
          simp only [Engine.puts, hopen]
      | some session =>
          have hputs : engine.puts world key (.commit name) = (acceptedAmong
              (Edit.save session.opening) session.edits world).findRev? (Edit.isAbout key) := by
            unfold Engine.puts
            simp only [hopen]
          rw [hputs, (serves.saved_commit hopen).2]
          exact putOver_apply _ _ _
  | applyDirect id name value =>
      refine hundecided rfl fun decided hmem => ?_
      unfold Engine.decisions at hmem
      cases hfound : engine.directControl id name with
      | error error => simp only [hfound] at hmem; cases hmem
      | ok found =>
          simp only [hfound] at hmem
          split at hmem
          · -- A direct setting decides on the key of its own control only.
            obtain ⟨rfl, -⟩ := Prod.mk.inj (List.mem_singleton.mp hmem)
            exact hdirect id name value found.1 found.2 rfl hfound rfl
          · cases hmem
  | _ => exact hundecided rfl fun _ => List.not_mem_nil

/-! ## Families of their own keys -/

/-- A family that is edited in sessions, whose controls have keys of their own: different from one
another, and from those of every other family. -/
structure Catalog.Separate (catalog : Catalog) (family : Family) : Prop where
  known : catalog.get? family.id = some family
  mode : family.mode = .session
  distinct : (family.controls.map Control.key).Nodup
  unshared : ∀ other ∈ catalog.families, other.id ≠ family.id →
    ∀ control ∈ family.controls, ∀ foreign ∈ other.controls, foreign.key ≠ control.key

namespace Catalog.Separate

variable {catalog : Catalog} {family other : Family} (separate : catalog.Separate family)
  {control found : Control}
include separate

theorem controls_nodup : family.controls.Nodup :=
  .of_map Control.key separate.distinct

/-- A family with a control of the same key is the family. -/
theorem eq_of_key (hother : catalog.get? other.id = some other) (hfound : found ∈ other.controls)
    (hcontrol : control ∈ family.controls) (hkey : found.key = control.key) :
    other = family ∧ found = control := by
  have hid : other.id = family.id := by
    by_contra hdiffers
    exact separate.unshared other (List.mem_of_find?_eq_some hother) hdiffers control hcontrol found
      hfound hkey
  obtain rfl : other = family := by
    rw [hid, separate.known] at hother
    exact (Option.some.inj hother).symm
  exact ⟨rfl, List.inj_on_of_nodup_map separate.distinct hfound hcontrol hkey⟩

/-- No direct setting has the key of a control. -/
theorem key_ne_of_direct {engine : Engine} (hcatalog : engine.catalog = catalog) {id name : String}
    (hfound : engine.directControl id name = .ok (other, found))
    (hcontrol : control ∈ family.controls) : found.key ≠ control.key := by
  intro hkey
  obtain ⟨hknown, hmode, hnamed⟩ := engine.directControl_eq_ok hfound
  have hother := (engine.get?_of_family hknown).1
  rw [hcatalog] at hother
  obtain ⟨rfl, -⟩ := separate.eq_of_key hother (List.mem_of_find?_eq_some hnamed) hcontrol hkey
  rw [separate.mode] at hmode
  cases hmode

end Catalog.Separate

/-! ## Provenance -/

/-- Where the saved value of a control comes from in a run: nothing was ever put under its key, so
that it is the one from before the run; or a session of the family was opened in the run and not
ended until it put the value by its commit, and nothing was put under the key later.  The value is
then the last one that this session gave the control, or else the one that was saved for it when the
session was opened. -/
inductive Provenance (keeping : Safekeeping World) (first : Engine) (world : World)
    (family : Family) (control : Control) : List Command → Int64 → Prop where
  | initial {commands : List Command}
      (never : first.neverPuts control.key commands world = true) :
      Provenance keeping first world family control commands (keeping.value world control)
  | committed {begun edited ended later after : List Command} {name : String}
      {coordinator : Option CoordinatorName} {edit : Edit}
      (edits : edited = begun ++ Command.openSession name family.id coordinator :: later)
      (ends : ended = edited ++ [Command.commit name])
      (opened : let before := first.reach begun world
        (perform (before.1.openSession name family.id coordinator) before.2).1.1 = .ok family.id)
      (kept : ∀ command ∈ later, command.ends name = false)
      (put : let before := first.reach edited world
        before.1.puts before.2 control.key (.commit name) = some edit)
      (about : edit.control = control)
      (never : let before := first.reach ended world
        before.1.neverPuts control.key after before.2 = true)
      (given : edit.current = lastGiven family (instructionsFor name later)
        (keeping.value (first.reach begun world).2) control) :
      Provenance keeping first world family control (ended ++ after) edit.current

section Provenance

variable {keeping : Safekeeping World} {first : Engine} {world : World} {family : Family}
  {control : Control} {commands : List Command} {value : Int64}

/-- A command that puts nothing under the key leaves the provenance of the value. -/
theorem Provenance.append
    (provenance : Provenance keeping first world family control commands value) {command : Command}
    (hnothing : let before := first.reach commands world
      before.1.puts before.2 control.key command = none) :
    Provenance keeping first world family control (commands ++ [command]) value := by
  cases provenance with
  | initial never =>
      refine .initial ?_
      rw [Engine.neverPuts_append, never]
      exact Engine.neverPuts_singleton hnothing
  | committed edits ends opened kept put about never given =>
      -- The command joins those after the commit.
      rw [List.append_assoc]
      refine .committed edits ends opened kept put about ?_ given
      rw [first.reach_append] at hnothing
      dsimp only
      rw [Engine.neverPuts_append, never]
      exact Engine.neverPuts_singleton hnothing

/-- Without any commit the value is the initial one. -/
theorem Provenance.eq_initial
    (provenance : Provenance keeping first world family control commands value)
    (hnone : ∀ name, Command.commit name ∉ commands) : value = keeping.value world control := by
  cases provenance with
  | initial never => rfl
  | @committed _ edited _ _ after name _ _ _ ends =>
      have hcommit : Command.commit name ∈ (edited ++ [.commit name]) ++ after :=
        List.mem_append_left _ List.mem_concat_self
      exact absurd (ends ▸ hcommit) (hnone name)

/-- A session of the family that is open after a run shows of each control what it was given last
since it was opened, or else what was saved for it then. -/
theorem exists_given (serves : keeping.Serves first world)
    (hfree : ∀ name, first.session? name = none) (separate : first.catalog.Separate family)
    {name : String} {session : Session}
    (hopen : (first.reach commands world).1.session? name = some session)
    (hfamily : session.family = family.id) :
    ∃ begun later coordinator,
      commands = begun ++ .openSession name family.id coordinator :: later ∧
      (∀ command ∈ later, command.ends name = false) ∧
      let before := first.reach begun world
      (perform (before.1.openSession name family.id coordinator) before.2).1.1 = .ok family.id ∧
      ∀ edit ∈ session.edits, edit.current =
        lastGiven family (instructionsFor name later) (keeping.value before.2) edit.control := by
  obtain ⟨found, captured, stems⟩ := stemsFrom_of_run hfree commands world hopen
  obtain ⟨begun, id, coordinator, later, hsplit, hkept, hfreeName, openable, hcaptured,
    hsession⟩ := told_of_stemsFrom stems hopen
  let before := first.reach begun world
  have hserves : keeping.Serves before.1 before.2 := serves.run begun
  -- The session was opened on the family, since it has its id.
  obtain ⟨hknown, rfl⟩ := before.1.get?_of_family openable.known
  obtain rfl : found = family := by
    have hcatalog : before.1.catalog = first.catalog := (run_keeps_catalog first begun world).1
    have hframe := Session.SameFrame.followAll
      (before.1.newSession found (coordinator.getD (.shared found.id)) captured)
      (instructionsFor name later)
    have hid : found.id = family.id := by
      rw [← hfamily, hsession]
      exact hframe.family.symm
    rw [hcatalog, hid, separate.known] at hknown
    exact (Option.some.inj hknown).symm
  refine ⟨begun, later, coordinator, hsplit, hkept, ?_, ?_⟩
  · exact congrArg (fun opened => opened.1.1)
      (before.1.openSession_openable before.2 hfreeName openable coordinator)
  · -- A fresh session captures what is saved and shows it until it is told otherwise.
    have hanswers : captured = editsOf found.controls (keeping.value before.2)
        (keeping.value before.2) := by
      rw [hcaptured]
      show (perform (captureEdits before.1.opening found.controls) _).1 = _
      rw [hserves.opening]
      exact keeping.answer_captureEdits_looked hserves.sound found
    intro edit hedit
    rw [hsession, edits_followAll separate.controls_nodup hanswers] at hedit
    obtain ⟨about, -, rfl⟩ := List.mem_map.mp hedit
    rfl

/-- The value that a commit puts comes from its session. -/
theorem Provenance.of_puts (serves : keeping.Serves first world)
    (hfree : ∀ name, first.session? name = none) (separate : first.catalog.Separate family)
    (hcontrol : control ∈ family.controls) {command : Command} {edit : Edit}
    (hputs : let before := first.reach commands world
      before.1.puts before.2 control.key command = some edit) :
    Provenance keeping first world family control (commands ++ [command]) edit.current := by
  obtain ⟨name, session, rfl, hopen, hmem, hkey⟩ := Engine.exists_of_puts hputs
  obtain ⟨-, found, hknown, -, hcontrols⟩ :=
    (serves.run commands).confined.faithful name session hopen
  rw [(run_keeps_catalog first commands world).1] at hknown
  have hid : found.id = session.family := by simpa using List.find?_some hknown
  have hfound : edit.control ∈ found.controls := hcontrols ▸ List.mem_map_of_mem hmem
  -- The session edits the family, because no other one has the key.
  obtain ⟨rfl, habout⟩ := separate.eq_of_key (hid.symm ▸ hknown) hfound hcontrol hkey
  obtain ⟨begun, later, coordinator, hsplit, hkept, hopened, hgiven⟩ :=
    exists_given serves hfree separate hopen hid.symm
  have hcurrent := hgiven edit hmem
  rw [habout] at hcurrent
  suffices provenance : Provenance keeping first world found control
      ((commands ++ [.commit name]) ++ []) edit.current by
    rwa [List.append_nil] at provenance
  exact .committed hsplit rfl hopened hkept hputs habout rfl hcurrent

/-- At the end of every run the saved value of a control has its provenance. -/
theorem provenance_of_value (serves : keeping.Serves first world)
    (hfree : ∀ name, first.session? name = none) (separate : first.catalog.Separate family)
    (hcontrol : control ∈ family.controls) (commands : List Command) :
    Provenance keeping first world family control commands
      (keeping.value (first.reach commands world).2 control) := by
  -- The run is taken apart at its last command.
  induction commands using List.reverseRecOn with
  | nil => exact .initial rfl
  | append_singleton before command ih =>
      let earlier := first.reach before world
      have hserves : keeping.Serves earlier.1 earlier.2 := serves.run before
      have hcatalog : earlier.1.catalog = first.catalog := (run_keeps_catalog first before world).1
      have hsaved := hserves.saved_step command control.key
        fun _ _ _ _ _ _ hfound => separate.key_ne_of_direct hcatalog hfound hcontrol
      rw [first.reach_append]
      show Provenance keeping first world family control (before ++ [command])
        (((keeping.kept (perform (earlier.1.step command) earlier.2).2).saved control.key).getD
          control.default)
      rw [hsaved]
      cases hputs : earlier.1.puts earlier.2 control.key command with
      | none => exact ih.append hputs
      | some edit => exact .of_puts serves hfree separate hcontrol hputs

end Provenance

/-! ## The law -/

/-- **Saved values are those of the latest commit.**  Take a store in safekeeping of which no node
is a part, as on a bench or in a file of a machine with any mishaps, a family that is edited in
sessions, with keys of its own, and any run, with any number of sessions of it, on any coordinators.
At its end the saved value of a control is the one that the latest commit to save it showed, or the
initial one, and it has its provenance in that session. -/
theorem saved_by_latest_commit (keeping : Safekeeping World) (catalog : Catalog) {family : Family}
    (separate : catalog.Separate family) (hnodes : ∀ path ∈ catalog.paths, keeping.isNode path)
    {world : World} (hsound : keeping.Sound world) (commands : List Command)
    {name : String} {control : Control} (hcontrol : family.control? name = some control) :
    let first := Engine.start catalog keeping.opening
    let last := first.reach commands world
    ∃ value, (perform (last.1.savedValue family.id name) last.2).1 = .ok value ∧
      Provenance keeping first world family control commands value := by
  intro first last
  have serves : keeping.Serves first world := .start hnodes hsound
  have hlast : keeping.Serves last.1 last.2 := serves.run commands
  have hknown : last.1.catalog.get? family.id = some family := by
    rw [show last.1.catalog = catalog from (run_keeps_catalog first commands world).1]
    exact separate.known
  refine ⟨keeping.value last.2 control, ?_, ?_⟩
  · rw [Engine.savedValue_known last.1 hknown hcontrol, perform_bind, hlast.opening,
      keeping.answer_saved hlast.sound]
    rfl
  · exact provenance_of_value serves (fun _ => rfl) separate (List.mem_of_find?_eq_some hcontrol)
      commands

/-- The control of a lamp, which is edited in sessions. -/
def lampLevel : Control :=
  { name := "level", path := "/lamp", maximum := 9, default := 1 }

/-- A machine with a lamp, whose level is saved as 2.  Its third write leaves rubbish on the node,
and the saving that comes next is refused. -/
def lampAtTwo : Unreliable (FileStore (Faulty FileTree)) :=
  let lamp := Engine.siteOfLamp "root" "saved.toml" (.file "0".toUTF8)
  let preferences := (["work", "saved.toml"], Entry.file "[values]\n\"/lamp\" = 2\n".toUTF8)
  ⟨[none, none, some (.garbled "?"), some .refused],
    ⟨lamp.site, ⟨[], ⟨["work"], preferences :: lamp.files.entries⟩⟩⟩⟩

/-- A session that is opened first and never edited commits last, after two others. -/
def staleCommit : List Command :=
  [.openSession "early" "lamp" none, .openSession "late" "lamp" (some (.named "panel")),
    .setLive "late" "level" 9, .commit "late", .openSession "third" "lamp" none,
    .setLive "third" "level" 5, .commit "third", .commit "early"]

/-- The stale session saves the value that it found when it was opened. -/
theorem saved_by_stale_commit :
    let catalog : Catalog := ⟨[Engine.levelOf "lamp" .session]⟩
    let first := Engine.start catalog 0
    let last := first.reach staleCommit lampAtTwo
    (perform (last.1.savedValue "lamp" "level") last.2).1 = .ok 2 ∧
      Provenance (lampAtTwo.world.treeKeeping 0) first lampAtTwo (Engine.levelOf "lamp" .session)
        lampLevel staleCommit 2 := by
  intro catalog first last
  have hapart : ∀ path ∈ catalog.paths,
      FileTree.Apart ["work"] "saved.toml" (Path.resolve "root" path) := by decide +kernel
  have separate : catalog.Separate (Engine.levelOf "lamp" .session) :=
    ⟨by decide +kernel, by decide +kernel, by decide +kernel, by decide +kernel⟩
  have hcontrol : (Engine.levelOf "lamp" .session).control? "level" = some lampLevel := by
    decide +kernel
  obtain ⟨value, hanswer, provenance⟩ := saved_by_latest_commit (lampAtTwo.world.treeKeeping 0)
    catalog separate hapart (FileStore.sound_treeKeeping (by decide +kernel)) staleCommit hcontrol
  have htwo : (perform (last.1.savedValue "lamp" "level") last.2).1 = .ok 2 := by decide +kernel
  obtain rfl : value = 2 := Except.ok.inj (hanswer.symm.trans htwo)
  exact ⟨hanswer, provenance⟩

/-- It is needed that no node is in the place of the preference file: a line of values for such a
node takes the saved value away without any commit. -/
theorem saved_value_lost_to_line :
    ¬∀ (catalog : Catalog) (family : Family) (name : String) (control : Control)
      (machine : Unreliable (FileStore (Faulty FileTree))) (commands : List Command),
      catalog.Separate family → family.control? name = some control →
      0 < machine.world.site.openings.length →
      let first := Engine.start catalog 0
      let last := first.reach commands machine
      ∃ value, (perform (last.1.savedValue family.id name) last.2).1 = .ok value ∧
        Provenance (machine.world.treeKeeping 0) first machine family control commands value := by
  intro hall
  let family := Engine.levelOf "lamp" .session
  let lamp := Engine.siteOfLamp "root" "root/lamp" (.file "[values]\n\"/lamp\" = 2\n".toUTF8)
  let machine : Unreliable (FileStore (Faulty FileTree)) := ⟨[], ⟨lamp.site, ⟨[], lamp.files⟩⟩⟩
  obtain ⟨value, hanswer, provenance⟩ := hall ⟨[family]⟩ family "level" lampLevel machine
    [.writeLine "lamp" "3"]
    ⟨by decide +kernel, by decide +kernel, by decide +kernel, by decide +kernel⟩
    (by decide +kernel) (by decide +kernel)
  obtain rfl := provenance.eq_initial (by simp)
  exact absurd hanswer (by decide +kernel)

end KernelControls
