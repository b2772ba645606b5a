import KernelControls.Proofs.Engine.Steps

/-!
# Sessions of one editor

An editor opens sessions on one family and has them counted by one coordinator.  How many there
are at a time, and in what order they open, preview and end, is not restricted.

## Strategy

`Command.Serves` says of a command that an editor may give it; commands that only ask, and
tickets of other coordinators, may always come between.  `Editor.Runs` is what all these
commands keep: the editor's sessions edit the controls of its family, in the same order, and
are counted by its coordinator.  So nothing that they show lies outside the family.
-/

namespace KernelControls

/-- One editor: the family it edits, the coordinator of its sessions, and their names. -/
structure Editor where
  family : Family
  coordinator : CoordinatorName
  names : String → Prop

/-- Whether an editor may give a command, or anybody may without doing harm to it. -/
def Command.Serves (editor : Editor) : Command → Prop
  | .openSession name id coordinator => editor.names name ∧ id = editor.family.id ∧
    coordinator.getD (.shared id) = editor.coordinator
  | .setLive name _ _ | .resetSession name | .commit name | .cancel name | .drop name =>
    editor.names name
  | .openTicket _ coordinator | .closeTicket _ coordinator => coordinator ≠ editor.coordinator
  | command => command.asks = true

namespace Editor

/-- The paths of the nodes that the editor's sessions write. -/
def paths (editor : Editor) : List String :=
  editor.family.controls.map Control.path

/-- An engine on which an editor works. -/
structure Runs (editor : Editor) (engine : Engine) : Prop where
  tidy : engine.Tidy
  known : engine.catalog.get? editor.family.id = some editor.family
  coordinator : ∀ name session, editor.names name → engine.session? name = some session →
    session.coordinator = editor.coordinator
  opening : ∀ name session, editor.names name → engine.session? name = some session →
    session.opening = engine.opening
  controls : ∀ name session, editor.names name → engine.session? name = some session →
    session.edits.map Edit.control = editor.family.controls

theorem Runs.start {editor : Editor} {engine : Engine} (tidy : engine.Tidy)
    (hknown : engine.catalog.get? editor.family.id = some editor.family)
    (hfree : ∀ name, editor.names name → engine.session? name = none) : editor.Runs engine := by
  have hnone : ∀ name session, editor.names name → engine.session? name ≠ some session := by
    intro name session hname hopen
    rw [hfree name hname] at hopen
    cases hopen
  exact {
    tidy := tidy
    known := hknown
    coordinator := fun name session hname hopen => absurd hopen (hnone name session hname)
    opening := fun name session hname hopen => absurd hopen (hnone name session hname)
    controls := fun name session hname hopen => absurd hopen (hnone name session hname) }

variable {World Place : Type} [DecidableEq Place] [NodeAccess (StateM World)]
  [PreferenceAccess (StateM World)] [lawful : LawfulBackend World Place]
  {editor : Editor} {engine : Engine} {command : Command}

/-- A session of an editor that is open after a command was open before, in the same frame, or
it was just opened and captured what the store holds. -/
theorem Runs.session?_step (runs : editor.Runs engine) (hserves : command.Serves editor)
    (world : World) {name : String} {session : Session}
    (hopen : (perform (engine.step command) world).1.2.session? name = some session) :
    (∃ earlier, engine.session? name = some earlier ∧ session.SameFrame earlier) ∨
      session = engine.newSession editor.family editor.coordinator
        ((scene world).capture engine.opening editor.family.controls) := by
  rcases KernelControls.session?_step engine command world hopen with
    hbefore | ⟨id, coordinator, family, rfl, -, hopenable, rfl⟩
  · exact .inl hbefore
  · -- An editor opens sessions of its own family only.
    obtain ⟨-, rfl, hcoordinator⟩ := hserves
    have hfamily : engine.family editor.family.id = .ok editor.family := by
      unfold Engine.family
      rw [runs.known]
    obtain rfl : editor.family = family := Except.ok.inj (hfamily.symm.trans hopenable.known)
    exact .inr (by rw [hcoordinator])

include lawful in
/-- Every command that serves an editor lets it work on. -/
theorem Runs.step (runs : editor.Runs engine) (hserves : command.Serves editor) (world : World) :
    editor.Runs (perform (engine.step command) world).1.2 := by
  have ⟨hcatalog, hopening⟩ := step_keeps_catalog engine command world
  refine ⟨tidy_step runs.tidy command world, hcatalog ▸ runs.known, ?_, ?_, ?_⟩
  · intro name session hname hopen
    rcases runs.session?_step hserves world hopen with ⟨earlier, hbefore, hframe⟩ | rfl
    · rw [hframe.coordinator]
      exact runs.coordinator name earlier hname hbefore
    · rfl
  · intro name session hname hopen
    rw [hopening]
    rcases runs.session?_step hserves world hopen with ⟨earlier, hbefore, hframe⟩ | rfl
    · rw [hframe.opening]
      exact runs.opening name earlier hname hbefore
    · rfl
  · intro name session hname hopen
    rcases runs.session?_step hserves world hopen with ⟨earlier, hbefore, hframe⟩ | rfl
    · rw [hframe.controls]
      exact runs.controls name earlier hname hbefore
    · exact (scene world).control_capture engine.opening editor.family.controls

/-- Every edit that a command shows is one of a control of the family. -/
theorem Runs.control_mem_of_shows (runs : editor.Runs engine) (hserves : command.Serves editor)
    {edit : Edit} (hedit : edit ∈ engine.shows command) :
    edit.control ∈ editor.family.controls := by
  -- Sessions of the editor edit the controls of its family, and preview or revert no others.
  have hmember : ∀ name session (found : Edit), editor.names name →
      engine.session? name = some session → found ∈ session.edits →
      found.control ∈ editor.family.controls := by
    intro name session found hname hopen hfound
    rw [← runs.controls name session hname hopen]
    exact List.mem_map_of_mem hfound
  have hgiveUp : ∀ name, editor.names name → edit ∈ engine.shows (.cancel name) →
      edit.control ∈ editor.family.controls := by
    intro name hname hedit
    cases hopen : engine.session? name with
    | none => simp only [Engine.shows, hopen, List.not_mem_nil] at hedit
    | some session =>
        simp only [Engine.shows, hopen] at hedit
        split at hedit
        · obtain ⟨found, hfound, rfl⟩ := List.mem_map.mp hedit
          exact hmember name session found hname hopen hfound
        · cases hedit
  cases command with
  | setLive name control value =>
      cases hopen : engine.session? name with
      | none => simp only [Engine.shows, hopen, List.not_mem_nil] at hedit
      | some session =>
          simp only [Engine.shows, hopen, Option.mem_toList,
            Option.map_eq_some_iff] at hedit
          obtain ⟨found, hfound, rfl⟩ := hedit
          exact hmember name session found hserves hopen (List.mem_of_find?_eq_some hfound)
  | resetSession name =>
      cases hopen : engine.session? name with
      | none => simp only [Engine.shows, hopen, List.not_mem_nil] at hedit
      | some session =>
          simp only [Engine.shows, hopen] at hedit
          obtain ⟨found, hfound, rfl⟩ := List.mem_map.mp hedit
          exact hmember name session found hserves hopen hfound
  | cancel name => exact hgiveUp name hserves hedit
  | drop name => exact hgiveUp name hserves hedit
  | _ => cases hedit

theorem Runs.paths_of_shows (runs : editor.Runs engine) (hserves : command.Serves editor) :
    ((engine.shows command).map Edit.node).map Prod.fst ⊆ editor.paths := by
  intro path hpath
  rw [paths_nodes, List.map_map] at hpath
  obtain ⟨edit, hedit, rfl⟩ := List.mem_map.mp hpath
  exact List.mem_map_of_mem (runs.control_mem_of_shows hserves hedit)

end Editor

end KernelControls
