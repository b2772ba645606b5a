import KernelControls.Proofs.Boot.Restoring

/-!
# Restoring twice is like restoring once

Families may share nodes under any spelling, with other codecs and other defaults, and some of
their nodes may be missing or refuse writes.  Restoring goes through them in order, and the last
text put on a node stays.  Doing all of it once more reports the same and changes nothing.

## Strategy

What a restoring depends on is its `Footing`: which nodes are there, which of them refuse writes,
and what is saved.  A supported family writes only nodes that are there, so no restoring changes
the footing (`footing_restore`).  Hence the outcome of a family and the texts it puts on nodes are
functions of the footing before the whole run, `restoreFamilies_exact`, and the second run puts
the same texts in the same order as the first: `putAll_putAll`.
-/

namespace KernelControls

/-! ## Steady backends -/

/-- Nodes of which a fixed set refuses writes.  Of a node that is there, whether and why it refuses
does not depend on what was written before, and a refused write changes nothing. -/
class SteadyNodes (World : Type) (Place : outParam Type) [DecidableEq Place]
    [NodeAccess (StateM World)] [LawfulNodes World Place] where
  /-- Why the node of a path refuses writes, if it does. -/
  refusal : World → String → Option NodeError
  write_answer : ∀ path text world, (LawfulNodes.tree world).isPresent path = true →
    (perform (NodeAccess.write path text) world).1 =
      match refusal world path with
      | some error => .error error
      | none => .ok ()
  write_refused : ∀ path text world, (LawfulNodes.tree world).isPresent path = true →
    (refusal world path).isSome = true →
    LawfulNodes.tree (perform (NodeAccess.write path text) world).2 = LawfulNodes.tree world
  refusal_write : ∀ path text world, (LawfulNodes.tree world).isPresent path = true →
    refusal (perform (NodeAccess.write path text) world).2 = refusal world
  refusal_isPresent : ∀ path world,
    refusal (perform (NodeAccess.isPresent path) world).2 = refusal world

/-- Such nodes with a store that has no part in what they refuse. -/
class SteadyBackend (World : Type) (Place : outParam Type) [DecidableEq Place]
    [NodeAccess (StateM World)] [PreferenceAccess (StateM World)] [LawfulBackend World Place]
    extends SteadyNodes World Place where
  refusal_saved? : ∀ opening key world,
    refusal (perform (PreferenceAccess.saved? opening key) world).2 = refusal world

instance Paired.steady {Nodes Store Place : Type} [DecidableEq Place]
    [NodeAccess (StateM Nodes)] [PreferenceAccess (StateM Store)] [LawfulNodes Nodes Place]
    [SteadyNodes Nodes Place] [LawfulStore Store] : SteadyBackend (Paired Nodes Store) Place where
  refusal pair := SteadyNodes.refusal pair.nodes
  write_answer path text pair := SteadyNodes.write_answer path text pair.nodes
  write_refused path text pair := SteadyNodes.write_refused path text pair.nodes
  refusal_write path text pair := SteadyNodes.refusal_write path text pair.nodes
  refusal_isPresent path pair := SteadyNodes.refusal_isPresent path pair.nodes
  refusal_saved? _ _ _ := rfl

namespace Bench

instance steadyNodes : SteadyNodes Bench (List Path.Component) where
  refusal bench path :=
    if bench.refuses path then some (.unwritable path .permissionDenied) else none
  write_answer path text bench _ := by
    show (bench.writeNode path text).1 = _
    unfold writeNode
    split <;> rfl
  write_refused path text bench _ hrefused := by
    show (bench.writeNode path text).2.view.tree = bench.view.tree
    unfold writeNode
    split
    · rfl
    · next haccepts =>
        rw [if_neg haccepts] at hrefused
        cases hrefused
  refusal_write path text bench _ := by
    show (fun other => if (bench.writeNode path text).2.refuses other then _ else _) = _
    unfold writeNode
    split <;> rfl
  refusal_isPresent _ _ := rfl

instance steady : SteadyBackend Bench (List Path.Component) :=
  ⟨fun _ _ _ => rfl⟩

end Bench

/-- What a restoring depends on. -/
structure Footing where
  isPresent : String → Bool
  refusal : String → Option NodeError
  saved : Opening → String → Option Int64

namespace Footing

variable (footing : Footing) (opening : Opening)

/-- The value of a control as an opening sees it. -/
def value (control : Control) : Int64 :=
  (footing.saved opening control.key).getD control.default

/-- Whether a family has controls and all their nodes are there. -/
def supports (family : Family) : Bool :=
  !family.controls.isEmpty && family.controls.all fun control => footing.isPresent control.path

/-- The controls whose nodes refuse writes, with the reasons. -/
def refused (controls : List Control) : List (Control × NodeError) :=
  controls.filterMap fun control => (footing.refusal control.path).map (control, ·)

/-- The nodes of the other controls, with the texts of their values. -/
def accepted (controls : List Control) : List (String × String) :=
  (controls.filter fun control => (footing.refusal control.path).isNone).map fun control =>
    (control.path, control.codec.encode (footing.value opening control))

/-- What becomes of a family. -/
def outcome (family : Family) : FamilyOutcome :=
  if footing.supports family then
    let failures := (footing.refused family.controls).map fun entry => (entry.1.name, entry.2)
    ⟨family.id, .applied (family.controls.length - failures.length) failures⟩
  else
    ⟨family.id, .skipped
      ((family.controls.map Control.path).filter fun path => !footing.isPresent path)⟩

/-- The texts that a family puts on nodes. -/
def nodes (family : Family) : List (String × String) :=
  if footing.supports family then footing.accepted opening family.controls else []

end Footing

section Steady

variable {World Place : Type} [DecidableEq Place] [NodeAccess (StateM World)]
  [PreferenceAccess (StateM World)] [LawfulBackend World Place] [SteadyBackend World Place]

/-- The footing that a backend gives. -/
def footing (world : World) : Footing where
  isPresent := (scene world).tree.isPresent
  refusal := SteadyNodes.refusal world
  saved := (scene world).saved

/-! ## Looking around -/

/-- An action that changes neither what is seen nor the footing. -/
def KeepsFooting {Value : Type} (action : StateM World Value) : Prop :=
  ∀ world, scene (perform action world).2 = scene world ∧
    footing (perform action world).2 = footing world

namespace KeepsFooting

variable {Value Other : Type}

theorem of_looks {action : StateM World Value} (hlooks : OnlyLooks action)
    (hrefusal : ∀ world, SteadyNodes.refusal (perform action world).2 =
      SteadyNodes.refusal world) : KeepsFooting action := by
  intro world
  have hscene := hlooks world
  refine ⟨hscene, ?_⟩
  unfold footing
  rw [hscene, hrefusal]

theorem pure (value : Value) : KeepsFooting (Pure.pure value : StateM World Value) :=
  fun _ => ⟨rfl, rfl⟩

theorem bind {action : StateM World Value} {rest : Value → StateM World Other}
    (haction : KeepsFooting action) (hrest : ∀ value, KeepsFooting (rest value)) :
    KeepsFooting (action >>= rest) := by
  intro world
  obtain ⟨hscene, hfooting⟩ := haction world
  obtain ⟨hlater, hkept⟩ := hrest (perform action world).1 (perform action world).2
  exact ⟨hlater.trans hscene, hkept.trans hfooting⟩

theorem missingPaths (paths : List String) :
    KeepsFooting (KernelControls.missingPaths paths : StateM World _) := by
  induction paths with
  | nil => exact pure _
  | cons path rest ih =>
      have hfirst : KeepsFooting (NodeAccess.isPresent path : StateM World Bool) :=
        of_looks (.isPresent path) (SteadyNodes.refusal_isPresent path)
      exact hfirst.bind fun _ => ih.bind fun _ => pure _

theorem isSupported (family : Family) : KeepsFooting (family.isSupported : StateM World Bool) :=
  (missingPaths _).bind fun _ => pure _

theorem saved (control : Control) (opening : Opening) :
    KeepsFooting (control.saved opening : StateM World Int64) :=
  (of_looks (.saved? opening control.key)
    (SteadyBackend.refusal_saved? opening control.key)).bind fun _ => pure _

end KeepsFooting

variable (opening : Opening) (world : World)

/-! ## Restoring, exactly -/

/-- A write to a node that is there keeps the footing, and puts its text unless it is refused. -/
theorem footing_write {path : String} (hpresent : (scene world).tree.isPresent path = true)
    (text : String) :
    let written := perform (NodeAccess.write path text) world
    footing written.2 = footing world ∧
      (scene written.2).tree =
        if ((footing world).refusal path).isNone then (scene world).tree.put path text
        else (scene world).tree := by
  intro written
  have hanswer := SteadyNodes.write_answer path text world hpresent
  have hsaved : (scene written.2).saved = (scene world).saved :=
    LawfulBackend.write_saved path text world
  have hrefusal := SteadyNodes.refusal_write path text world hpresent
  -- A write can change the footing only by making a node come or go.
  have hkept : (scene written.2).tree.isPresent = (scene world).tree.isPresent →
      footing written.2 = footing world := by
    intro hsame
    unfold footing
    rw [hsame, hsaved, hrefusal]
  cases hwhy : SteadyNodes.refusal world path with
  | some error =>
      have htree : (scene written.2).tree = (scene world).tree :=
        SteadyNodes.write_refused path text world hpresent (by rw [hwhy]; rfl)
      refine ⟨hkept (by rw [htree]), ?_⟩
      rw [htree, if_neg]
      show ¬ (SteadyNodes.refusal world path).isNone = true
      rw [hwhy]
      exact Bool.false_ne_true
  | none =>
      rw [hwhy] at hanswer
      have htree : (scene written.2).tree = (scene world).tree.put path text :=
        LawfulNodes.write_accepted path text world hanswer
      refine ⟨hkept ?_, ?_⟩
      · rw [htree]
        exact NodeTree.isPresent_put hpresent text
      · rw [htree, if_pos]
        show (SteadyNodes.refusal world path).isNone = true
        rw [hwhy]
        rfl

theorem restoreControl_exact {control : Control}
    (hpresent : (footing world).isPresent control.path = true) :
    let restored := perform (control.restore opening) world
    let refusal := (footing world).refusal control.path
    restored.1 = (match refusal with
      | some error => .error error
      | none => .ok ()) ∧
    footing restored.2 = footing world ∧
    (scene restored.2).tree =
      if refusal.isNone then (scene world).tree.put control.path
        (control.codec.encode ((footing world).value opening control))
      else (scene world).tree := by
  -- What is looked up before the write does not change what the write depends on.
  obtain ⟨hscene, hfooting⟩ := KeepsFooting.saved control opening world
  let looked := (perform (control.saved opening) world).2
  have hlooked : (scene looked).tree.isPresent control.path = true := by
    rw [hscene]
    exact hpresent
  have hrefusal : SteadyNodes.refusal looked control.path =
      (footing world).refusal control.path :=
    congrFun (congrArg Footing.refusal hfooting) control.path
  let text := control.codec.encode ((footing world).value opening control)
  have hanswer := SteadyNodes.write_answer control.path text looked hlooked
  obtain ⟨hkept, htree⟩ := footing_write looked hlooked text
  rw [hfooting] at hkept htree
  rw [hscene] at htree
  rw [hrefusal] at hanswer
  intro restored
  rw [show restored = _ from control.restore_eq_write opening world]
  exact ⟨hanswer, hkept, htree⟩

theorem restoreControls_exact {controls : List Control}
    (hpresent : ∀ control ∈ controls, (footing world).isPresent control.path = true) :
    let restored := perform (attemptAll (Control.restore opening) controls) world
    restored.1 = (footing world).refused controls ∧ footing restored.2 = footing world ∧
      (scene restored.2).tree =
        (scene world).tree.putAll ((footing world).accepted opening controls) := by
  induction controls generalizing world with
  | nil => exact ⟨rfl, rfl, rfl⟩
  | cons control rest ih =>
      obtain ⟨hthere, hothers⟩ := List.forall_mem_cons.mp hpresent
      obtain ⟨hanswer, hkept, htree⟩ := restoreControl_exact opening world hthere
      -- The others are restored on the same footing.
      obtain ⟨hrefused, hlater, hput⟩ := ih (perform (control.restore opening) world).2
        (by rwa [hkept])
      rw [hkept] at hrefused hlater hput
      rw [htree] at hput
      have hrun := attemptAll_cons_run (Control.restore opening) control rest world
      intro restored
      have hresult : restored.1 = noteRefusal control
          (perform (control.restore opening) world).1 ((footing world).refused rest) := by
        rw [← hrefused]
        exact congrArg Prod.fst hrun
      refine ⟨?_, hlater, hput.trans ?_⟩
      · rw [hresult, hanswer]
        unfold Footing.refused
        rw [List.filterMap_cons]
        cases (footing world).refusal control.path <;> rfl
      · unfold Footing.accepted
        rw [List.filter_cons]
        cases (footing world).refusal control.path <;> rfl

theorem Family.restore_exact (family : Family) :
    let restored := perform (family.restore opening) world
    restored.1 = (footing world).outcome family ∧ footing restored.2 = footing world ∧
      (scene restored.2).tree =
        (scene world).tree.putAll ((footing world).nodes opening family) := by
  obtain ⟨hscene, hfooting⟩ := KeepsFooting.isSupported family world
  have hsupported : (perform family.isSupported world).1 = (footing world).supports family :=
    answer_isSupported_eq world family
  unfold Footing.outcome Footing.nodes
  rw [← hsupported]
  rcases family.restore_cases opening world with ⟨hyes, hrun⟩ | ⟨hno, hrun⟩
  · -- A supported family has its nodes, and they are there after the look as well.
    have hpresent : ∀ control ∈ family.controls,
        (footing (perform family.isSupported world).2).isPresent control.path = true := by
      rw [hfooting]
      rw [hsupported] at hyes
      exact List.all_eq_true.mp (Bool.and_eq_true_iff.mp hyes).2
    obtain ⟨hrefused, hkept, htree⟩ := restoreControls_exact opening _ hpresent
    rw [hfooting] at hrefused hkept htree
    rw [hscene] at htree
    rw [hrun, if_pos hyes, if_pos hyes]
    exact ⟨by simp only [hrefused], hkept, htree⟩
  · obtain ⟨hsame, hkept⟩ :=
      KeepsFooting.missingPaths (family.controls.map Control.path)
        (perform family.isSupported world).2
    have hmissing : (perform family.missing (perform family.isSupported world).2).1 = _ :=
      answer_missingPaths (perform family.isSupported world).2 (family.controls.map Control.path)
    rw [hscene] at hmissing
    have hnot : ¬ (perform family.isSupported world).1 = true := by
      rw [hno]
      exact Bool.false_ne_true
    rw [hrun, if_neg hnot, if_neg hnot]
    refine ⟨?_, hkept.trans hfooting, congrArg Scene.tree (hsame.trans hscene)⟩
    rw [hmissing]
    rfl

/-- Restoring families: the outcomes and the texts follow from the footing before all of it. -/
theorem restoreFamilies_exact (families : List Family) :
    let restored := perform (restoreFamilies opening families) world
    restored.1 = families.map (footing world).outcome ∧ footing restored.2 = footing world ∧
      (scene restored.2).tree =
        (scene world).tree.putAll (families.flatMap ((footing world).nodes opening)) := by
  induction families generalizing world with
  | nil => exact ⟨rfl, rfl, rfl⟩
  | cons family rest ih =>
      obtain ⟨houtcome, hkept, htree⟩ := family.restore_exact opening world
      obtain ⟨houtcomes, hlater, hput⟩ := ih (perform (family.restore opening) world).2
      rw [hkept] at houtcomes hlater hput
      rw [htree, ← NodeTree.putAll_append] at hput
      rw [restoreFamilies_cons]
      exact ⟨by rw [houtcome, houtcomes]; rfl, hlater, hput⟩

/-- **Restoring twice is like restoring once.**  Take any list of families, with or without
faults, sharing nodes or not, on nodes of which any set refuses writes and with any saved values.
After families were restored, restoring them once more gives the same report, with the same
reasons, and leaves everything that can be seen as it is. -/
theorem restoreAll_idempotent (families : List Family) :
    let first := perform (restoreAll opening families) world
    let second := perform (restoreAll opening families) first.2
    second.1 = first.1 ∧ scene second.2 = scene first.2 := by
  intro first second
  obtain ⟨houtcomes, hkept, htree⟩ := restoreFamilies_exact opening world families
  obtain ⟨hagain, -, hput⟩ := restoreFamilies_exact opening first.2 families
  -- The second run stands on the footing of the first, so it reports and puts the same.
  have hfooting : footing first.2 = footing world := hkept
  rw [hfooting] at hagain hput
  have hreport : second.1.families = first.1.families := hagain.trans houtcomes.symm
  have hsame : (scene second.2).tree = (scene first.2).tree := by
    calc (scene second.2).tree
        = (scene first.2).tree.putAll (families.flatMap ((footing world).nodes opening)) := hput
      _ = (scene first.2).tree := by
          rw [show (scene first.2).tree = _ from htree, NodeTree.putAll_putAll]
  have hsaved : (scene second.2).saved = (scene first.2).saved := restoreFamilies_saved
  refine ⟨congrArg RestoreReport.mk hreport, ?_⟩
  calc scene second.2
      = ⟨(scene second.2).tree, (scene second.2).saved⟩ := rfl
    _ = scene first.2 := by rw [hsame, hsaved]

end Steady

/-- Two families put different texts on one node and find another one refusing, a third lacks a
node, and a fourth has no controls. -/
example :
    let family (id path : String) (codec : Codec) : Family :=
      ⟨id, id, .session,
        [⟨"gain", path, codec, 0, 9, 3⟩, ⟨"mute", "/n/mute", .identity, 0, 1, 0⟩]⟩
    let bench : Bench :=
      { nodes := [("/n/gain", "up"), ("/n/mute", "up")], refusing := ["/n//mute"] }
    let families : List Family :=
      [⟨"none", "none", .direct, []⟩, family "plain" "/n/gain" .identity,
        family "doubled" "/n/./gain/" (.linear 2), family "absent" "/n/missing" .identity]
    let once := perform (restoreAll 0 families) bench
    let twice := perform (restoreAll 0 families) once.2
    once.1.applied = 2 ∧ once.1.failures = 2 ∧ twice.1 = once.1 ∧
      once.2.nodes = [("/n/gain", "6"), ("/n/mute", "up")] ∧ twice.2.nodes = once.2.nodes := by
  decide +kernel

end KernelControls
