import KernelControls.Proofs.Sessions.Instructions
import KernelControls.Proofs.Stores.Mishaps

/-!
# A session sees nothing of its surroundings

Two sessions of one family that captured the same saved values and were told the same show the
same, however much else differs between the two runs: what the nodes hold and which of them take a
write, who else edits the family and how that ends, what is set directly, restored or written as a
line, and what kind of backend there is.  What a session captured never changes.

## Strategy

A `Sitting` is a session from its opening on.  What came before is in the engine and the world that
it is opened on, and these may be any whatever, so that a theorem about two sittings is one about
any two runs.  What a session shows is a function of what it captured and of what it was told
(`session?_run_told`), and it captures what is saved (`Safekeeping.answer_captureEdits`).
-/

namespace KernelControls

/-- Sessions with the same edits that are told the same have the same edits. -/
theorem Session.edits_followAll_congr {session other : Session}
    (hedits : session.edits = other.edits) (instructions : List Instruction) :
    (session.followAll instructions).edits = (other.followAll instructions).edits := by
  induction instructions generalizing session other with
  | nil => exact hedits
  | cons instruction rest ih =>
      apply ih
      cases instruction with
      | preview control value => exact congrArg (previewFirst control value) hedits
      | previewDefaults => exact congrArg (List.map _) hedits

/-- A session of a family from its opening on.  The engine and the world are those that it is opened
on, and the commands that follow do not end it. -/
structure Sitting (World : Type) [NodeAccess (StateM World)] [PreferenceAccess (StateM World)]
    (family : Family) where
  keeping : Safekeeping World
  engine : Engine
  world : World
  name : String
  coordinator : Option CoordinatorName
  commands : List Command
  sound : keeping.Sound world
  opening : engine.opening = keeping.opening
  known : engine.family family.id = .ok family
  opened : (perform (engine.openSession name family.id coordinator) world).1.1 = .ok family.id
  kept : ∀ command ∈ commands, command.ends name = false

namespace Sitting

variable {World Other : Type} [NodeAccess (StateM World)] [PreferenceAccess (StateM World)]
  [NodeAccess (StateM Other)] [PreferenceAccess (StateM Other)] {family : Family}
  (sitting : Sitting World family) (other : Sitting Other family)

/-- Engine and world at the end. -/
def last : Engine × World :=
  let begun := perform (sitting.engine.openSession sitting.name family.id sitting.coordinator)
    sitting.world
  begun.1.2.reach sitting.commands begun.2

/-- The value that was saved for a control when the session was opened. -/
def saved (control : Control) : Int64 :=
  sitting.keeping.value sitting.world control

/-- What the session was told. -/
def told : List Instruction :=
  instructionsFor sitting.name sitting.commands

/-- What the session shows of all its controls. -/
def shown : Answer :=
  (perform (sitting.last.1.step (.showSession sitting.name)) sitting.last.2).1.1

/-- What the session shows of the control of a name. -/
def shownControl (control : String) : Answer :=
  (perform (sitting.last.1.step (.showControl sitting.name control)) sitting.last.2).1.1

/-- The session captured what was saved, and has followed what it was told. -/
theorem session?_last : ∃ begun : Session,
    begun.edits = editsOf family.controls sitting.saved sitting.saved ∧
      sitting.last.1.session? sitting.name = some (begun.followAll sitting.told) := by
  obtain ⟨found, openable, hopen⟩ := session?_of_opened sitting.opened
  obtain rfl : found = family := Except.ok.inj (openable.known.symm.trans sitting.known)
  refine ⟨_, ?_, session?_run_told hopen sitting.kept _⟩
  show (perform (captureEdits sitting.engine.opening found.controls) _).1 = _
  rw [sitting.opening]
  exact sitting.keeping.answer_captureEdits_looked sitting.sound found

theorem exists_shown : ∃ session : Session,
    sitting.last.1.session? sitting.name = some session ∧
      sitting.shown = .edits session.edits ∧
      (∀ control, sitting.shownControl control = .edit (session.edit? control)) ∧
      session.edits.map Edit.control = family.controls ∧
      session.edits.map Edit.captured = family.controls.map sitting.saved := by
  obtain ⟨begun, hbegun, hlast⟩ := sitting.session?_last
  have hframe := Session.SameFrame.followAll begun sitting.told
  refine ⟨_, hlast, ?_, fun control => ?_, ?_, ?_⟩
  · unfold shown
    simp only [Engine.step, hlast]
    rfl
  · unfold shownControl
    simp only [Engine.step, hlast]
    rfl
  · rw [hframe.controls, hbegun]
    unfold editsOf
    rw [List.map_map]
    exact List.map_id _
  · rw [hframe.captured, hbegun]
    unfold editsOf
    rw [List.map_map]
    rfl

/-- **A session's view is isolated.**  Take two sittings of a family, on any two engines, worlds and
kinds of backend, with the same values saved when they are opened.  If they are told the same, they
show the same of every control, and of each control they show as captured what was saved for it
then.  What else happens in the two runs, and what is refused in them, makes no difference. -/
theorem view_isolated
    (hsaved : ∀ control ∈ family.controls, sitting.saved control = other.saved control)
    (htold : sitting.told = other.told) :
    (∀ control, sitting.shownControl control = other.shownControl control) ∧
    ∃ edits, sitting.shown = .edits edits ∧ other.shown = .edits edits ∧
      edits.map Edit.control = family.controls ∧
      edits.map Edit.captured = family.controls.map sitting.saved := by
  obtain ⟨session, hopen, hshown, hcontrols, hnames, hcaptured⟩ := sitting.exists_shown
  obtain ⟨second, hsecond, hshownSecond, hcontrolsSecond, -, -⟩ := other.exists_shown
  have hedits : session.edits = second.edits := by
    obtain ⟨begun, hbegun, hlast⟩ := sitting.session?_last
    obtain ⟨begunSecond, hbegunSecond, hlastSecond⟩ := other.session?_last
    obtain rfl : session = begun.followAll sitting.told := Option.some.inj (hopen.symm.trans hlast)
    obtain rfl : second = begunSecond.followAll other.told :=
      Option.some.inj (hsecond.symm.trans hlastSecond)
    -- Both captured the same values, and were told the same from then on.
    have hsame : begun.edits = begunSecond.edits := by
      rw [hbegun, hbegunSecond]
      apply List.map_congr_left
      intro control hcontrol
      rw [hsaved control hcontrol]
    rw [← htold]
    exact Session.edits_followAll_congr hsame _
  refine ⟨fun control => ?_, session.edits, hshown, ?_, hnames, hcaptured⟩
  · rw [hcontrols, hcontrolsSecond]
    unfold Session.edit?
    rw [hedits]
  · rw [hshownSecond, hedits]

/-- A machine on which a vibration of 60 is saved. -/
def savedSixty : Bench where
  nodes := [("/sys/class/timed_output/vibrator/pwm_value", "50")]
  preferences := .ofList [("/sys/class/timed_output/vibrator/pwm_value", 60)]

/-- An editor that has the machine to itself. -/
def alone : Sitting Bench .vibration where
  keeping := Bench.safekeeping 0
  engine := .start .builtin 0
  world := savedSixty
  name := "editor"
  coordinator := none
  commands := [.setLive "editor" "intensity" 70]
  sound := trivial
  opening := rfl
  known := by decide +kernel
  opened := by decide +kernel
  kept := by decide +kernel

/-- The same machine, on which writes go wrong, after a rival previewed. -/
def rivalPreviewed : (List Answer × Engine) × Unreliable Bench :=
  perform ((Engine.start .builtin 0).run
    [.openSession "rival" "vibration" none, .setLive "rival" "intensity" 90])
    ⟨[none, some (.garbled "?"), some .refused], savedSixty⟩

/-- An editor on that machine, while the rival goes on and commits. -/
def besideRival : Sitting (Unreliable Bench) .vibration where
  keeping := (Bench.safekeeping 0).unreliable
  engine := rivalPreviewed.1.2
  world := rivalPreviewed.2
  name := "viewer"
  coordinator := none
  commands := [.setLive "rival" "intensity" 95, .setLive "viewer" "intensity" 70,
    .commit "rival", .writeLine "vibration" "10", .restore none]
  sound := trivial
  opening := by decide +kernel
  known := by decide +kernel
  opened := by decide +kernel
  kept := by decide +kernel

/-- Both editors show 60 as captured and 70 as previewed. -/
theorem rival_unseen : alone.told = besideRival.told ∧
    ∃ edits, alone.shown = .edits edits ∧ besideRival.shown = .edits edits ∧
      edits.map Edit.captured = [60] ∧ edits.map Edit.current = [70] := by
  have htold : alone.told = besideRival.told := by decide +kernel
  have hsaved : ∀ control ∈ Family.vibration.controls,
      alone.saved control = besideRival.saved control := by decide +kernel
  obtain ⟨-, edits, hshown, hshownBoth, -, hcaptured⟩ :=
    view_isolated alone besideRival hsaved htold
  refine ⟨htold, edits, hshown, hshownBoth, hcaptured.trans (by decide +kernel), ?_⟩
  have hedits : alone.shown =
      .edits [⟨Family.vibration.controls.head (by decide), 60, 70⟩] := by decide +kernel
  obtain rfl := Answer.edits.inj (hshown.symm.trans hedits)
  rfl

end Sitting

end KernelControls
