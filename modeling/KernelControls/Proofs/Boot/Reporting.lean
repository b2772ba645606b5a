import KernelControls.Proofs.Boot.Replaying

/-!
# The report of a restoring

Restoring families does exactly what its report says, and both follow from the state before
the run: which nodes are there, which of them refuse writes, and what is saved.  Families may
share nodes, so a node may be written several times; it keeps the text of the last control
that writes it.

## Strategy

`restoreFamilies_exact` gives the outcomes and the texts that are put on the nodes, both from
the footing before the run.  What is left is to read them: `Footing.Describes` is what an
outcome says of its family, and `sight_putAll` says which of many texts stays on a node.
-/

namespace KernelControls

/-! ## The text that stays -/

/-- The place of some paths shows the text that was put there last, and any other place what it
showed before. -/
theorem NodeTree.sight_putAll {Place : Type} [DecidableEq Place] (tree : NodeTree Place)
    (nodes : List (String × String)) (place : Place) :
    (tree.putAll nodes).sight place =
      match (nodes.filter fun node => tree.place node.1 = place).getLast? with
      | some node => .text node.2
      | none => tree.sight place := by
  induction nodes generalizing tree with
  | nil => rfl
  | cons node rest ih =>
      have hplace : (tree.put node.1 node.2).place = tree.place := rfl
      rw [putAll, ih, hplace, List.filter_cons]
      -- A text that was put here is seen unless a later one was put here, too.
      by_cases hhere : tree.place node.1 = place
      · rw [if_pos (decide_eq_true hhere), List.getLast?_cons, sight_put, if_pos hhere.symm]
        cases (rest.filter fun later => tree.place later.1 = place).getLast? <;> rfl
      · rw [if_neg (by simpa using hhere), sight_put, if_neg (Ne.symm hhere)]

/-! ## What a footing says -/

namespace Footing

variable (footing : Footing)

/-- Whether the node of a control refuses writes. -/
def refuses (control : Control) : Bool :=
  (footing.refusal control.path).isSome

/-- The controls that are written: those of supported families whose nodes do not refuse, in
order. -/
def writers (families : List Family) : List Control :=
  ((families.filter footing.supports).flatMap Family.controls).filter fun control =>
    !footing.refuses control

/-- What an entry of a report says about its family.  A family that is not supported is skipped
with the paths of its missing nodes.  Of a supported one every control is counted, as written
or by its name as failed. -/
structure Describes (family : Family) (entry : FamilyOutcome) : Prop where
  id : entry.family = family.id
  skipped : footing.supports family = false → entry.outcome =
    .skipped ((family.controls.map Control.path).filter fun path => !footing.isPresent path)
  applied : footing.supports family = true → ∃ written failures,
    entry.outcome = .applied written failures ∧
    failures.map Prod.fst = (family.controls.filter footing.refuses).map Control.name ∧
    written + failures.length = family.controls.length

/-- The refused controls are those whose nodes refuse, each once. -/
theorem map_fst_refused (controls : List Control) :
    (footing.refused controls).map Prod.fst = controls.filter footing.refuses := by
  induction controls with
  | nil => rfl
  | cons control rest ih =>
      unfold refused refuses at ih ⊢
      rw [List.filterMap_cons, List.filter_cons, ← ih]
      cases footing.refusal control.path <;> rfl

theorem describes_outcome (family : Family) :
    footing.Describes family (footing.outcome family) where
  id := by
    unfold outcome
    split <;> rfl
  skipped hsupports := by
    unfold outcome
    rw [if_neg (by simp [hsupports])]
  applied hsupports := by
    have hfst := footing.map_fst_refused family.controls
    have hlength : (footing.refused family.controls).length ≤ family.controls.length := by
      rw [← List.length_map (f := Prod.fst), hfst]
      exact List.length_filter_le _ _
    refine ⟨_, _, by unfold outcome; rw [if_pos hsupports], ?_, ?_⟩
    · rw [← hfst, List.map_map, List.map_map]
      rfl
    · rw [List.length_map]
      exact Nat.sub_add_cancel hlength

/-- The texts that families put on nodes are those of the controls that are written. -/
theorem flatMap_nodes (opening : Opening) (families : List Family) :
    families.flatMap (footing.nodes opening) = (footing.writers families).map fun control =>
      (control.path, control.codec.encode (footing.value opening control)) := by
  have haccepts : ∀ control, (footing.refusal control.path).isNone = !footing.refuses control := by
    intro control
    unfold refuses
    cases footing.refusal control.path <;> rfl
  induction families with
  | nil => rfl
  | cons family rest ih =>
      rw [List.flatMap_cons, ih]
      unfold nodes writers
      cases hsupports : footing.supports family with
      | false => rw [List.filter_cons_of_neg (by simp [hsupports])]; rfl
      | true =>
          rw [List.filter_cons_of_pos hsupports, List.flatMap_cons, List.filter_append,
            List.map_append, if_pos rfl, accepted]
          simp only [haccepts]

end Footing

/-! ## Counting -/

namespace RestoreReport

variable (report : RestoreReport)

theorem applied_add_skipped : report.applied + report.skipped = report.families.length :=
  Nat.add_sub_cancel' (List.length_filter_le _ _)

theorem failures_eq_length :
    report.failures = (report.families.flatMap fun entry => entry.outcome.failed).length := by
  rw [List.length_flatMap]
  rfl

end RestoreReport

/-! ## The report -/

variable {World Place : Type} [DecidableEq Place] [NodeAccess (StateM World)]
  [PreferenceAccess (StateM World)] [LawfulBackend World Place] [SteadyBackend World Place]

/-- **A restoring does what its report says.**  Take any families, with or without faults, sharing
nodes or not, on nodes of which any set refuses writes and with any saved values.  The report has
one entry for every family, in order, and what it says follows from the state before the run.
After the run every node that a control of a supported family could write holds the text of the
last such control, every other node is as it was, no node came or went, and nothing was saved.
The counts of the report are those of its entries. -/
theorem restoreAll_reported (opening : Opening) (world : World) (families : List Family) :
    let before := footing world
    let restored := perform (restoreAll opening families) world
    List.Forall₂ before.Describes families restored.1.families ∧
    (∀ place, (scene restored.2).tree.sight place =
      match ((before.writers families).filter fun control =>
        (scene world).tree.place control.path = place).getLast? with
      | some control => .text (control.codec.encode (before.value opening control))
      | none => (scene world).tree.sight place) ∧
    (scene restored.2).tree.place = (scene world).tree.place ∧
    (scene restored.2).tree.isPresent = (scene world).tree.isPresent ∧
    (scene restored.2).saved = (scene world).saved ∧
    restored.1.applied + restored.1.skipped = families.length ∧
    restored.1.failures =
      (restored.1.families.flatMap fun entry => entry.outcome.failed).length := by
  intro before restored
  obtain ⟨houtcomes, hkept, htree⟩ := restoreFamilies_exact opening world families
  replace houtcomes : restored.1.families = families.map before.outcome := houtcomes
  have hfooting : footing restored.2 = before := hkept
  refine ⟨?_, fun place => ?_, restoreFamilies_place, congrArg Footing.isPresent hfooting,
    restoreFamilies_saved, ?_, restored.1.failures_eq_length⟩
  · rw [houtcomes, List.forall₂_map_right_iff, List.forall₂_same]
    exact fun family _ => before.describes_outcome family
  · rw [show (scene restored.2).tree = _ from htree, before.flatMap_nodes, NodeTree.sight_putAll,
      List.filter_map, List.getLast?_map]
    simp only [Function.comp_def]
    cases ((before.writers families).filter fun control =>
      (scene world).tree.place control.path = place).getLast? <;> rfl
  · rw [restored.1.applied_add_skipped, houtcomes, List.length_map]

end KernelControls
