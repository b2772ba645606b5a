import KernelControls.Proofs.Backends.Interchange
import KernelControls.Proofs.Stores.SparedFiles

/-!
# Preferences change by a decision only

What a user decides is to accept a session, or to set a control directly.  Only these two save
anything.  Everything else leaves every saved value as it is, and on a machine the preference file
as well: previews, endings that give up, refused openings and settings, restorings, lines of values
and all questions, whatever goes wrong with the nodes and the store.

There is one way around this.  Lines of values and previews are written where the controls are, so
if the preference file is itself in the place of a node, they are written over it.

## Strategy

`Engine.decisions` lists what a command decides to save, as a function of the engine and of what the
nodes answer.  A command that is neither a commit nor a direct setting is harmless, a direct setting
that fails a check only asks, and the rest is what a batch of savings puts over what was saved
(`Serves.step_decided`).  In a run the store stays in safekeeping (`Serves.run`), so all this holds
at every point of it.
-/

namespace KernelControls

variable {World : Type} [NodeAccess (StateM World)] [PreferenceAccess (StateM World)]

/-! ## Decisions -/

namespace Engine

/-- The values that a command decides to save, with their keys: those of an accepted session, or
that of a direct setting that passes all checks. -/
def decisions (engine : Engine) (world : World) : Command → List (String × Int64)
  | .commit name =>
    match engine.session? name with
    | some session => session.edits.map fun edit => (edit.control.key, edit.current)
    | none => []
  | .applyDirect id name value =>
    match engine.directControl id name with
    | .ok (family, control) =>
      if (perform family.isSupported world).1 then [(control.key, value)] else []
    | .error _ => []
  | _ => []

/-- What one command does to what is kept: an entry changes only to a value that the command decides
to save, no entry is lost, and where nothing is decided nothing changes at all. -/
structure SavesByDecision (engine : Engine) (kept : World → Kept) (world : World)
    (command : Command) : Prop where
  changed : ∀ key, let after := (perform (engine.step command) world).2
    (kept after).saved key ≠ (kept world).saved key →
      ∃ value, (key, value) ∈ engine.decisions world command ∧ (kept after).saved key = some value
  present : ∀ key, ((kept world).saved key).isSome = true →
    ((kept (perform (engine.step command) world).2).saved key).isSome = true
  untouched : engine.decisions world command = [] →
    kept (perform (engine.step command) world).2 = kept world

/-- In every run no entry is ever lost, and every command saves by decision only. -/
def DecidesAll (engine : Engine) (kept : World → Kept) (world : World) : Prop :=
  ∀ commands, let ran := perform (engine.run commands) world
    (∀ key, ((kept world).saved key).isSome = true → ((kept ran.2).saved key).isSome = true) ∧
      ∀ command, ran.1.2.SavesByDecision kept ran.2 command

end Engine

/-! ## Engines served by a store -/

/-- An engine whose values are in safekeeping, with no control in a place of the store. -/
structure Safekeeping.Serves (keeping : Safekeeping World) (engine : Engine) (world : World) :
    Prop where
  confined : engine.Confined keeping.isNode
  opening : engine.opening = keeping.opening
  sound : keeping.Sound world

namespace Safekeeping.Serves

variable {keeping : Safekeeping World} {engine : Engine} {world : World}

theorem start {catalog : Catalog} (hnodes : ∀ path ∈ catalog.paths, keeping.isNode path)
    (hsound : keeping.Sound world) :
    keeping.Serves (.start catalog keeping.opening) world where
  confined := ⟨faithful_start _ _, hnodes⟩
  opening := rfl
  sound := hsound

section Step

variable (serves : keeping.Serves engine world)
include serves

/-- A session that an accepted saving goes through has the opening that is in safekeeping. -/
theorem opening_of_session {name : String} {session : Session}
    (hopen : engine.session? name = some session) : session.opening = keeping.opening :=
  (serves.confined.faithful name session hopen).1.trans serves.opening

/-- A commit puts the values that are not refused over what was saved. -/
theorem saved_commit {name : String} {session : Session}
    (hopen : engine.session? name = some session) :
    let after := (perform (engine.closeSession name true) world).2
    keeping.Sound after ∧ (keeping.kept after).saved =
      putOver (keeping.kept world).saved
        (acceptedAmong (Edit.save session.opening) session.edits world) := by
  rw [engine.commit_some world hopen, serves.opening_of_session hopen]
  exact keeping.saved_saveEdits serves.sound session.edits

/-- A direct setting that passes the checks saves its value or nothing. -/
theorem saved_applyDirect {id name : String} {family : Family} {control : Control} (value : Int64)
    (hfound : engine.directControl id name = .ok (family, control))
    (hsupported : (perform family.isSupported world).1 = true) :
    let after := (perform (engine.applyDirect id name value) world).2
    keeping.Sound after ∧ ((keeping.kept after).saved = (keeping.kept world).saved ∨
      (keeping.kept after).saved =
        Function.update (keeping.kept world).saved control.key (some value)) := by
  have harmless := keeping.harmless (keeping.kept world)
  obtain ⟨hknown, -, hnamed⟩ := engine.directControl_eq_ok hfound
  have hnode := serves.confined.reaching_of_family hknown control (List.mem_of_find?_eq_some hnamed)
  let looked := (perform family.isSupported world).2
  let written := (perform (control.write value) looked).2
  have hlooked := harmless.isSupported family world ⟨serves.sound, rfl⟩
  obtain ⟨hsound, hkept⟩ : keeping.Sound written ∧ keeping.kept written = keeping.kept world :=
    harmless.writeControl hnode value looked hlooked
  -- What was kept has come through the check and the write, so the saving starts from it.
  rw [engine.applyDirect_supported world value hfound hsupported, serves.opening, ← hkept]
  refine ⟨keeping.sound_save control.key value written hsound, ?_⟩
  cases hresult : (perform (PreferenceAccess.save keeping.opening control.key value) written).1 with
  | error error => exact .inl (keeping.save_refused _ _ error written hsound hresult)
  | ok done => exact .inr (keeping.save_accepted _ _ written hsound hresult)

/-- A direct setting that fails a check changes nothing that is kept. -/
theorem kept_applyDirect_denied {id name : String} (value : Int64)
    (hdenied : engine.decisions world (.applyDirect id name value) = []) :
    let after := (perform (engine.applyDirect id name value) world).2
    keeping.Sound after ∧ keeping.kept after = keeping.kept world := by
  cases hfound : engine.directControl id name with
  | error error =>
      rw [engine.applyDirect_refused world value hfound]
      exact ⟨serves.sound, rfl⟩
  | ok found =>
      obtain ⟨family, control⟩ := found
      have hsupported : (perform family.isSupported world).1 = false := by
        cases hanswer : (perform family.isSupported world).1 with
        | false => rfl
        | true => simp [Engine.decisions, hfound, hanswer] at hdenied
      rw [engine.applyDirect_unsupported world value hfound hsupported]
      exact (keeping.undisturbed _).isSupported family world ⟨serves.sound, rfl⟩

/-- A command that decides nothing changes nothing that is kept. -/
theorem step_undecided {command : Command} (hnothing : engine.decisions world command = []) :
    let after := (perform (engine.step command) world).2
    keeping.Sound after ∧ keeping.kept after = keeping.kept world := by
  by_cases hcommit : ∃ name, command = .commit name
  · obtain ⟨name, rfl⟩ := hcommit
    rw [engine.step_commit]
    cases hopen : engine.session? name with
    | none =>
        rw [engine.closeSession_none world hopen]
        exact ⟨serves.sound, rfl⟩
    | some session =>
        -- A session that decides nothing has no controls.
        have hnone : session.edits = [] := by
          simpa [Engine.decisions, hopen] using hnothing
        rw [engine.commit_some world hopen, hnone]
        exact ⟨serves.sound, rfl⟩
  by_cases hdirect : ∃ id name value, command = .applyDirect id name value
  · obtain ⟨id, name, value, rfl⟩ := hdirect
    exact serves.kept_applyDirect_denied value hnothing
  have hstep := (keeping.harmless (keeping.kept world)).step serves.confined
    (fun name hsame => hcommit ⟨name, hsame⟩)
    (fun id name value hsame => hdirect ⟨id, name, value, hsame⟩)
  exact hstep world ⟨serves.sound, rfl⟩

/-- One command, of whatever kind: what was saved stays, or the value of a decision is there. -/
theorem step_decided (command : Command) :
    let after := (perform (engine.step command) world).2
    keeping.Sound after ∧ ∀ key, (keeping.kept after).saved key = (keeping.kept world).saved key ∨
      ∃ value, (key, value) ∈ engine.decisions world command ∧
        (keeping.kept after).saved key = some value := by
  by_cases hnothing : engine.decisions world command = []
  · obtain ⟨hsound, hkept⟩ := serves.step_undecided hnothing
    exact ⟨hsound, fun key => .inl (by rw [hkept])⟩
  cases command with
  | commit name =>
      cases hopen : engine.session? name with
      | none => simp [Engine.decisions, hopen] at hnothing
      | some session =>
          obtain ⟨hsound, hsaved⟩ := serves.saved_commit hopen
          refine ⟨hsound, fun key => ?_⟩
          rw [engine.step_commit, hsaved, putOver_apply]
          cases hlast : (acceptedAmong (Edit.save session.opening) session.edits world).findRev?
            (Edit.isAbout key) with
          | none => exact .inl rfl
          | some edit =>
              -- The value is that of an accepted edit, which is one of the session.
              obtain ⟨haccepted, habout⟩ := mem_of_findRev?_eq_some hlast
              have hmem := (acceptedAmong_sublist _ _ _).subset haccepted
              refine .inr ⟨edit.current, ?_, rfl⟩
              simp only [Engine.decisions, hopen]
              exact List.mem_map.mpr ⟨edit, hmem, by rw [Edit.isAbout_iff.mp habout]⟩
  | applyDirect id name value =>
      cases hfound : engine.directControl id name with
      | error error => simp [Engine.decisions, hfound] at hnothing
      | ok found =>
          obtain ⟨family, control⟩ := found
          cases hsupported : (perform family.isSupported world).1 with
          | false => simp [Engine.decisions, hfound, hsupported] at hnothing
          | true =>
              obtain ⟨hsound, hsaved⟩ := serves.saved_applyDirect value hfound hsupported
              refine ⟨hsound, fun key => ?_⟩
              show (keeping.kept (perform (engine.applyDirect id name value) world).2).saved key =
                _ ∨ ∃ decided, _ ∧
                  (keeping.kept (perform (engine.applyDirect id name value) world).2).saved key = _
              rcases hsaved with hsame | hset
              · exact .inl (by rw [hsame])
              · rw [hset, Function.update_apply]
                split
                · next hkey =>
                    refine .inr ⟨value, ?_, rfl⟩
                    simp [Engine.decisions, hfound, hsupported, hkey]
                · exact .inl rfl
  | _ => exact absurd rfl hnothing

theorem step (command : Command) : keeping.Serves (perform (engine.step command) world).1.2
    (perform (engine.step command) world).2 where
  confined := serves.confined.step command world
  opening := (step_keeps_catalog engine command world).2.trans serves.opening
  sound := (serves.step_decided command).1

theorem savesByDecision (command : Command) :
    engine.SavesByDecision keeping.kept world command where
  changed key hchanged := ((serves.step_decided command).2 key).resolve_left hchanged
  present key hpresent := by
    rcases (serves.step_decided command).2 key with hsame | ⟨value, -, hsaved⟩
    · rwa [hsame]
    · rw [hsaved]
      rfl
  untouched hnothing := (serves.step_undecided hnothing).2

end Step

theorem run (serves : keeping.Serves engine world) (commands : List Command) :
    keeping.Serves (perform (engine.run commands) world).1.2
      (perform (engine.run commands) world).2 := by
  induction commands generalizing engine world with
  | nil => exact serves
  | cons command rest ih => exact ih (serves.step command)

theorem decidesAll (serves : keeping.Serves engine world) :
    engine.DecidesAll keeping.kept world := by
  refine fun commands => ⟨?_, fun command => (serves.run commands).savesByDecision command⟩
  induction commands generalizing engine world with
  | nil => exact fun _ hpresent => hpresent
  | cons command rest ih =>
      intro key hpresent
      exact ih (serves.step command) key ((serves.savesByDecision command).present key hpresent)

end Safekeeping.Serves

/-! ## The two stores -/

/-- The safekeeping of the preferences that one opening of a machine's file reads and saves, with
any mishaps.  The nodes are apart from this file. -/
def FileStore.treeKeeping (machine : FileStore (Faulty FileTree)) (opening : Opening) :
    Safekeeping (Unreliable (FileStore (Faulty FileTree))) :=
  (FileStore.safekeeping machine.site.nodeRoot (Faulty.sparesFile (FileTree.sparesFile
    machine.files.files.workingDirectory machine.site.preferencePath)) opening).unreliable

theorem FileStore.sound_treeKeeping {machine : Unreliable (FileStore (Faulty FileTree))}
    {opening : Opening} (hopened : opening < machine.world.site.openings.length) :
    (treeKeeping machine.world opening).Sound machine :=
  ⟨rfl, rfl, hopened, rfl⟩

/-- **Preferences change by a decision only.**  Take any catalog and any run, on a bench or on the
files of a machine, with any script of mishaps for nodes and store.  No entry is ever lost.  A
command changes an entry only to a value that it decides to save: that of a control of the session
that it accepts, or the value it is to set directly if it passes all checks.  Any other command
leaves all entries as they are, and on a machine the file of the preferences, if no control's node
is in the place of this file. -/
theorem preferences_change_by_decision (catalog : Catalog) (opening : Opening) :
    (∀ machine : Unreliable Bench, (Engine.start catalog opening).DecidesAll
      (fun machine => machine.world.kept) machine) ∧
    ∀ machine : Unreliable (FileStore (Faulty FileTree)),
      opening < machine.world.site.openings.length →
      (∀ node ∈ catalog.paths,
        FileTree.Apart machine.world.files.files.workingDirectory machine.world.site.preferencePath
          (Path.resolve machine.world.site.nodeRoot node)) →
      (Engine.start catalog opening).DecidesAll
        (fun machine => machine.world.keptBy opening) machine := by
  constructor
  · intro machine
    let keeping := (Bench.safekeeping opening).unreliable
    have serves : keeping.Serves (Engine.start catalog opening) machine :=
      .start (fun _ _ => trivial) trivial
    exact serves.decidesAll
  · intro machine hopened hapart
    let keeping := machine.world.treeKeeping opening
    have serves : keeping.Serves (Engine.start catalog opening) machine :=
      .start hapart (FileStore.sound_treeKeeping hopened)
    exact serves.decidesAll

/-- A machine with a vibrator, on which writes go wrong and no file can be put in place at first. -/
def vibratorWithMishaps : Unreliable (FileStore (Faulty FileTree)) :=
  let device := ["work", "root", "sys", "class", "timed_output", "vibrator"]
  ⟨[none, some .refused, none, some (.garbled "?")],
    ⟨.start "root" "data/preferences.toml", ⟨[some .placing], ⟨["work"],
      (device.inits.map fun location => (location, .directory)) ++
        [(device ++ ["pwm_value"], .file "50".toUTF8)]⟩⟩⟩⟩

/-- On this machine, too, preferences change by a decision only. -/
theorem vibrator_saves_by_decision :
    (∀ node ∈ Family.vibration.controls.map Control.path,
      FileTree.Apart ["work"] "data/preferences.toml" (Path.resolve "root" node)) ∧
    (Engine.start ⟨[.vibration]⟩ 0).DecidesAll (fun machine => machine.world.keptBy 0)
      vibratorWithMishaps := by
  refine ⟨by decide +kernel, ?_⟩
  exact (preferences_change_by_decision ⟨[.vibration]⟩ 0).2 vibratorWithMishaps
    (by decide +kernel) (by decide +kernel)

/-- It is needed that no node is in the place of the preference file: a line of values for such a
node is written over the preferences. -/
theorem line_written_over_preferences :
    ¬∀ (catalog : Catalog) (machine : Unreliable (FileStore (Faulty FileTree))),
      0 < machine.world.site.openings.length →
      (Engine.start catalog 0).DecidesAll (fun machine => machine.world.keptBy 0) machine := by
  intro hall
  let catalog : Catalog := ⟨[Engine.levelOf "lamp" .direct]⟩
  let lamp := Engine.siteOfLamp "root" "root/lamp" (.file "[values]\n\"/lamp\" = 2\n".toUTF8)
  let machine : Unreliable (FileStore (Faulty FileTree)) := ⟨[], ⟨lamp.site, ⟨[], lamp.files⟩⟩⟩
  have hkept := ((hall catalog machine (by decide +kernel) []).2 (.writeLine "lamp" "3")).untouched
    rfl
  exact absurd (congrArg (fun kept => kept.saved "/lamp") hkept) (by decide +kernel)

end KernelControls
