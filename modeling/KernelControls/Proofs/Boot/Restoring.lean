import KernelControls.Proofs.Engine.Steps
import Mathlib.Data.List.Pairwise

/-!
# What restoring does

Restoring works through the families of a catalog.  A family whose nodes are all there gets the
saved value of every control written to its node; nothing is saved and no other node changes.

## Strategy

Restoring the controls of a family is a batch of writes of the values that an opening would
capture, so `Writes` says all about it.  For one family among others two things are shown along
the list: what its nodes hold is left alone by the families that do not name them, and its own
turn makes them hold the saved values.  A family that owns its nodes is therefore restored
whatever is restored before it and after it.
-/

namespace KernelControls

/-! ## Batches in which nothing is refused -/

section Batch

variable {World Item Reason : Type} (attempt : Item → StateM World (Except Reason Unit))

/-- Whether no item of a batch is refused. -/
def allAccepted : List Item → World → Bool
  | [], _ => true
  | item :: rest, world =>
    let done := perform (attempt item) world
    done.1.isOk && allAccepted rest done.2

theorem eq_ok_of_isOk {result : Except Reason Unit} (hresult : result.isOk = true) :
    result = .ok () := by
  cases result with
  | ok done => rfl
  | error reason => cases hresult

theorem attemptAll_eq_nil_iff {items : List Item} {world : World} :
    (perform (attemptAll attempt items) world).1 = [] ↔
      allAccepted attempt items world = true := by
  induction items generalizing world with
  | nil => exact iff_of_true rfl rfl
  | cons item rest ih =>
      rw [attemptAll_cons_eq_nil_iff, ih, allAccepted, Bool.and_eq_true_iff]
      refine and_congr_left fun _ => ⟨fun hitem => ?_, eq_ok_of_isOk⟩
      rw [hitem]
      rfl

end Batch

/-! ## One family -/

variable {World Place : Type} [DecidableEq Place] [NodeAccess (StateM World)]
  [PreferenceAccess (StateM World)]

/-- Whether no node refuses a write while families are restored. -/
def restoreGoesWell (opening : Opening) : List Family → World → Bool
  | [], _ => true
  | family :: rest, world =>
    let looked := perform family.isSupported world
    (!looked.1 || allAccepted (Control.restore opening) family.controls looked.2) &&
      restoreGoesWell opening rest (perform (family.restore opening) world).2

variable [LawfulBackend World Place] (opening : Opening) (world : World)

theorem Scene.capture_eq_of_saved {Place : Type} {seen other : Scene Place}
    (hsaved : seen.saved = other.saved) (controls : List Control) :
    seen.capture opening controls = other.capture opening controls := by
  unfold capture value
  rw [hsaved]

theorem Control.restore_eq_write (control : Control) :
    perform (control.restore opening) world =
      perform (NodeAccess.write control.path
        (control.codec.encode ((scene world).value opening control)))
        (perform (control.saved opening) world).2 := by
  unfold Control.restore
  rw [perform_bind, answer_saved]
  rfl

/-- Restoring controls writes what an opening would capture. -/
theorem writes_restoreControls (controls : List Control) :
    Writes (((scene world).capture opening controls).map Edit.node)
      (allAccepted (Control.restore opening) controls world = true) (scene world)
      (scene (perform (attemptAll (Control.restore opening) controls) world).2) := by
  induction controls generalizing world with
  | nil => exact .nil _
  | cons control rest ih =>
      let looked := (perform (control.saved opening) world).2
      let text := control.codec.encode ((scene world).value opening control)
      have hscene : scene looked = scene world := OnlyLooks.saved control opening world
      have hfirst := Writes.node control.path text looked
      rw [hscene, ← control.restore_eq_write opening world] at hfirst
      have hrest := ih (perform (control.restore opening) world).2
      rw [Scene.capture_eq_of_saved opening hfirst.saved] at hrest
      refine Writes.cons hfirst hrest fun hall => ?_
      obtain ⟨hcontrol, hlater⟩ := Bool.and_eq_true_iff.mp hall
      exact ⟨eq_ok_of_isOk hcontrol, hlater⟩

/-- Controls of different nodes hold their saved values after they were restored without a
refusal. -/
theorem agrees_restoreControls {controls : List Control}
    (hdistinct : (controls.map fun control => (scene world).tree.place control.path).Nodup)
    (haccepted : allAccepted (Control.restore opening) controls world = true) :
    (scene (perform (attemptAll (Control.restore opening) controls) world).2).Agrees opening
      controls := by
  have hwrites := writes_restoreControls opening world controls
  intro control hcontrol
  have hvalue : (scene (perform (attemptAll (Control.restore opening) controls) world).2).value
      opening control = (scene world).value opening control := by
    unfold Scene.value
    rw [hwrites.saved]
  rw [hvalue, hwrites.accepted haccepted]
  -- No later write of the batch reaches the place of an earlier one.
  refine NodeTree.look_putAll _ ?_
    (List.mem_map.mpr ⟨_, List.mem_map.mpr ⟨control, hcontrol, rfl⟩, rfl⟩)
  rw [List.map_map, List.map_map]
  exact hdistinct

/-- Restoring a family works through its controls if it is supported, and else skips it. -/
theorem Family.restore_cases (family : Family) :
    let looked := perform family.isSupported world
    (looked.1 = true ∧
      let refused := perform (attemptAll (Control.restore opening) family.controls) looked.2
      let failures := refused.1.map fun entry => (entry.1.name, entry.2)
      perform (family.restore opening) world =
        (⟨family.id, .applied (family.controls.length - failures.length) failures⟩, refused.2)) ∨
    (looked.1 = false ∧
      let missing := perform family.missing looked.2
      perform (family.restore opening) world =
        (⟨family.id, .skipped missing.1⟩, missing.2)) := by
  unfold Family.restore
  rw [perform_bind]
  cases hsupported : (perform family.isSupported world).1 with
  | true => exact .inl ⟨hsupported, rfl⟩
  | false => exact .inr ⟨hsupported, rfl⟩

/-- Restoring a family saves nothing and changes at most its own nodes. -/
theorem Family.restore_outside (family : Family) :
    (scene (perform (family.restore opening) world).2).saved = (scene world).saved ∧
    (scene (perform (family.restore opening) world).2).tree.EqOutside
      (family.controls.map Control.path) (scene world).tree := by
  have hlooked : scene (perform family.isSupported world).2 = scene world :=
    OnlyLooks.isSupported family world
  rcases family.restore_cases opening world with ⟨-, hrun⟩ | ⟨-, hrun⟩
  · have hwrites := writes_restoreControls opening (perform family.isSupported world).2
      family.controls
    have hpaths : (((scene world).capture opening family.controls).map Edit.node).map Prod.fst =
        family.controls.map Control.path := by
      rw [paths_nodes, Scene.capture, List.map_map, List.map_map]
      rfl
    rw [hlooked] at hwrites
    rw [hrun]
    exact ⟨hwrites.saved, hpaths ▸ hwrites.outside⟩
  · -- A family that is skipped is only looked at.
    have hmissing : scene (perform family.missing (perform family.isSupported world).2).2 =
        scene world := (OnlyLooks.missingPaths _ _).trans hlooked
    have hafter : scene (perform (family.restore opening) world).2 = scene world := by
      rw [hrun]
      exact hmissing
    rw [hafter]
    exact ⟨rfl, .refl _ _⟩

/-- A family whose nodes are all there gets all its saved values if no write is refused. -/
theorem Family.restore_supported {family : Family} (hcontrols : family.controls ≠ [])
    (hpresent : ∀ control ∈ family.controls, (scene world).tree.isPresent control.path = true)
    (hdistinct : (family.controls.map fun control =>
      (scene world).tree.place control.path).Nodup)
    (haccepted : (!(perform family.isSupported world).1 ||
      allAccepted (Control.restore opening) family.controls
        (perform family.isSupported world).2) = true) :
    (perform (family.restore opening) world).1 =
        ⟨family.id, .applied family.controls.length []⟩ ∧
      (scene (perform (family.restore opening) world).2).Agrees opening family.controls := by
  have hlooked : scene (perform family.isSupported world).2 = scene world :=
    OnlyLooks.isSupported family world
  have hsupported := answer_isSupported world hcontrols hpresent
  rw [hsupported, Bool.not_true, Bool.false_or] at haccepted
  have hrefused := (attemptAll_eq_nil_iff (Control.restore opening)).mpr haccepted
  rcases family.restore_cases opening world with ⟨-, hrun⟩ | ⟨hskipped, -⟩
  case inr => rw [hsupported] at hskipped; cases hskipped
  rw [hrun]
  simp only [hrefused]
  exact ⟨rfl, agrees_restoreControls opening _ (hlooked ▸ hdistinct) haccepted⟩

/-! ## One family among others -/

/-- A family whose nodes are all different and named by no other family. -/
structure Family.OwnsNodes (place : String → Place) (families : List Family)
    (family : Family) : Prop where
  distinct : (family.controls.map fun control => place control.path).Nodup
  apart : ∀ other ∈ families, other ≠ family → ∀ control ∈ family.controls,
    ∀ foreign ∈ other.controls, place control.path ≠ place foreign.path

/-- Two scenes in which controls show the same on their nodes and have the same values saved. -/
def Scene.SameOn (seen other : Scene Place) (opening : Opening) (controls : List Control) : Prop :=
  ∀ control ∈ controls, seen.tree.look control.path = other.tree.look control.path ∧
    seen.value opening control = other.value opening control

/-- What concerns the nodes and keys of another family only is nothing to a family that owns its
nodes: where places differ, so do paths, and with them the keys. -/
theorem Family.OwnsNodes.sameOn {Place : Type} {seen after : Scene Place} {opening : Opening}
    {families : List Family} {family other : Family}
    (howns : family.OwnsNodes seen.tree.place families) (hother : other ∈ families)
    (hne : other ≠ family)
    (htree : after.tree.EqOutside (other.controls.map Control.path) seen.tree)
    (hsaved : ∀ key, key ∉ other.controls.map Control.key →
      after.saved opening key = seen.saved opening key) :
    after.SameOn seen opening family.controls := by
  intro control hcontrol
  have happart := howns.apart other hother hne control hcontrol
  constructor
  · unfold NodeTree.look
    rw [htree.place]
    refine htree.sight _ fun hmem => ?_
    obtain ⟨path, hpath, hsame⟩ := List.mem_map.mp hmem
    obtain ⟨foreign, hforeign, rfl⟩ := List.mem_map.mp hpath
    exact happart foreign hforeign hsame.symm
  · unfold Scene.value
    rw [hsaved]
    intro hmem
    obtain ⟨foreign, hforeign, hsame⟩ := List.mem_map.mp hmem
    exact happart foreign hforeign (congrArg seen.tree.place hsame.symm)

/-- Where all controls of all families have places of their own, every family owns its nodes. -/
theorem Family.ownsNodes_of_nodup {Place : Type} {place : String → Place} {families : List Family}
    (hdistinct : ((families.flatMap Family.controls).map fun control =>
      place control.path).Nodup) {family : Family} (hfamily : family ∈ families) :
    family.OwnsNodes place families := by
  rw [List.map_flatMap, List.nodup_flatMap] at hdistinct
  obtain ⟨hwithin, hbetween⟩ := hdistinct
  refine ⟨hwithin family hfamily,
    fun other hother hne control hcontrol foreign hforeign hsame => ?_⟩
  have : Std.Symm (Function.onFun List.Disjoint fun known : Family =>
      known.controls.map fun control => place control.path) :=
    ⟨fun _ _ h _ hright hleft => h hleft hright⟩
  have hdisjoint := hbetween.forall hfamily hother (Ne.symm hne)
  exact hdisjoint (List.mem_map_of_mem hcontrol) (hsame ▸ List.mem_map_of_mem hforeign)

section List

variable {opening : Opening} {world : World} {first family : Family} {rest : List Family}

theorem restoreFamilies_cons : perform (restoreFamilies opening (first :: rest)) world =
    ((perform (first.restore opening) world).1 ::
        (perform (restoreFamilies opening rest) (perform (first.restore opening) world).2).1,
      (perform (restoreFamilies opening rest) (perform (first.restore opening) world).2).2) := rfl

@[simp] theorem RestoreReport.outcome?_cons (entry : FamilyOutcome) (others : List FamilyOutcome)
    (id : String) : outcome? ⟨entry :: others⟩ id =
      if entry.family = id then some entry.outcome else outcome? ⟨others⟩ id := by
  unfold outcome?
  rw [List.find?_cons]
  by_cases hid : entry.family = id
  · simp [hid]
  · simp [hid]

theorem Family.id_of_restore : (perform (family.restore opening) world).1.family = family.id := by
  rcases family.restore_cases opening world with ⟨-, hrun⟩ | ⟨-, hrun⟩
  · rw [hrun]
  · rw [hrun]

theorem restoreFamilies_saved {families : List Family} :
    (scene (perform (restoreFamilies opening families) world).2).saved = (scene world).saved := by
  induction families generalizing world with
  | nil => rfl
  | cons first rest ih =>
      rw [restoreFamilies_cons]
      exact ih.trans (first.restore_outside opening world).1

theorem restoreFamilies_place {families : List Family} :
    (scene (perform (restoreFamilies opening families) world).2).tree.place =
      (scene world).tree.place := by
  induction families generalizing world with
  | nil => rfl
  | cons first rest ih =>
      rw [restoreFamilies_cons]
      exact ih.trans (first.restore_outside opening world).2.place

namespace Family.OwnsNodes

theorem tail (howns : family.OwnsNodes (scene world).tree.place (first :: rest)) :
    family.OwnsNodes (scene (perform (first.restore opening) world).2).tree.place rest := by
  rw [(first.restore_outside opening world).2.place]
  exact ⟨howns.distinct, fun other hother => howns.apart other (List.mem_cons_of_mem _ hother)⟩

theorem sameOn_restore (howns : family.OwnsNodes (scene world).tree.place (first :: rest))
    (hother : first ≠ family) :
    (scene (perform (first.restore opening) world).2).SameOn (scene world) opening
      family.controls := by
  obtain ⟨hsaved, houtside⟩ := first.restore_outside opening world
  exact howns.sameOn List.mem_cons_self hother houtside fun key _ => by rw [hsaved]

/-- Nodes that hold the saved values keep them, whichever family is restored. -/
theorem agrees_restore (howns : family.OwnsNodes (scene world).tree.place (first :: rest))
    (hagrees : (scene world).Agrees opening family.controls)
    (hwell : restoreGoesWell opening (first :: rest) world = true) :
    (scene (perform (first.restore opening) world).2).Agrees opening family.controls := by
  intro control hcontrol
  by_cases hsame : first = family
  · -- Its own turn writes the same values again.
    subst hsame
    have hpresent : ∀ found ∈ first.controls, (scene world).tree.isPresent found.path = true := by
      intro found hfound
      unfold NodeTree.isPresent
      rw [hagrees found hfound]
      rfl
    exact (Family.restore_supported opening world (List.ne_nil_of_mem hcontrol) hpresent
      howns.distinct (Bool.and_eq_true_iff.mp hwell).1).2 control hcontrol
  · obtain ⟨hlook, hvalue⟩ := howns.sameOn_restore hsame control hcontrol
    rw [hlook, hvalue]
    exact hagrees control hcontrol

/-- Nodes that hold the saved values keep them while families are restored. -/
theorem agrees_restoreFamilies {families : List Family}
    (howns : family.OwnsNodes (scene world).tree.place families)
    (hagrees : (scene world).Agrees opening family.controls)
    (hwell : restoreGoesWell opening families world = true) :
    (scene (perform (restoreFamilies opening families) world).2).Agrees opening
      family.controls := by
  induction families generalizing world with
  | nil => exact hagrees
  | cons first rest ih =>
      rw [restoreFamilies_cons]
      exact ih howns.tail (howns.agrees_restore hagrees hwell) (Bool.and_eq_true_iff.mp hwell).2

/-- A family that owns its nodes is restored completely if they are there and no write is
refused. -/
theorem restoreFamilies_applied {families : List Family}
    (howns : family.OwnsNodes (scene world).tree.place families)
    (hfound : families.find? (fun known => known.id = family.id) = some family)
    (hcontrols : family.controls ≠ [])
    (hpresent : ∀ control ∈ family.controls, (scene world).tree.isPresent control.path = true)
    (hwell : restoreGoesWell opening families world = true) :
    RestoreReport.outcome? ⟨(perform (restoreFamilies opening families) world).1⟩ family.id =
        some (.applied family.controls.length []) ∧
      (scene (perform (restoreFamilies opening families) world).2).Agrees opening
        family.controls := by
  induction families generalizing world with
  | nil => cases hfound
  | cons first rest ih =>
      obtain ⟨hfirst, hrest⟩ := Bool.and_eq_true_iff.mp hwell
      rw [restoreFamilies_cons]
      by_cases hid : first.id = family.id
      · -- The first family of this id is the family, so this is its turn.
        obtain rfl : first = family := by
          rw [List.find?_cons_of_pos (by simpa using hid)] at hfound
          exact Option.some.inj hfound
        obtain ⟨houtcome, hagrees⟩ := Family.restore_supported opening world hcontrols hpresent
          howns.distinct hfirst
        refine ⟨?_, howns.tail.agrees_restoreFamilies hagrees hrest⟩
        simp [houtcome]
      · -- The report goes on until the family comes.
        have hother : first ≠ family := fun hsame => hid (hsame ▸ rfl)
        rw [List.find?_cons_of_neg (by simpa using hid)] at hfound
        rw [RestoreReport.outcome?_cons, Family.id_of_restore, if_neg hid]
        refine ih howns.tail hfound (fun control hcontrol => ?_) hrest
        unfold NodeTree.isPresent
        rw [(howns.sameOn_restore hother control hcontrol).1]
        exact hpresent control hcontrol

end Family.OwnsNodes

/-! ## Families that nobody edits -/

/-- What is seen of a family that nobody edits: if all its nodes are there, they hold the saved
values. -/
def Scene.Settled (seen : Scene Place) (opening : Opening) (controls : List Control) : Prop :=
  (∀ control ∈ controls, seen.tree.isPresent control.path = true) → seen.Agrees opening controls

theorem Scene.SameOn.settled {Place : Type} {seen after : Scene Place} {controls : List Control}
    (hsame : after.SameOn seen opening controls) (hsettled : seen.Settled opening controls) :
    after.Settled opening controls := by
  intro hpresent control hcontrol
  obtain ⟨hlook, hvalue⟩ := hsame control hcontrol
  rw [hlook, hvalue]
  refine hsettled (fun found hfound => ?_) control hcontrol
  unfold NodeTree.isPresent
  rw [← (hsame found hfound).1]
  exact hpresent found hfound

/-- A family is settled after it was restored without a refusal, whether its nodes are there or
not. -/
theorem Family.settled_restore
    (hdistinct : (family.controls.map fun control => (scene world).tree.place control.path).Nodup)
    (hclean : (perform (family.restore opening) world).1.outcome.failed = []) :
    (scene (perform (family.restore opening) world).2).Settled opening family.controls := by
  have hlooked : scene (perform family.isSupported world).2 = scene world :=
    OnlyLooks.isSupported family world
  intro hpresent
  rcases family.restore_cases opening world with ⟨-, hrun⟩ | ⟨hskipped, hrun⟩
  · rw [hrun] at hclean ⊢
    have hrefused := List.map_eq_nil_iff.mp (List.map_eq_nil_iff.mp hclean)
    exact agrees_restoreControls opening _ (hlooked ▸ hdistinct)
      ((attemptAll_eq_nil_iff (Control.restore opening)).mp hrefused)
  · -- Nothing was written, so what is there now was there before: there are no controls.
    have hmissing : scene (perform family.missing (perform family.isSupported world).2).2 =
        scene world := (OnlyLooks.missingPaths _ _).trans hlooked
    rw [hrun, hmissing] at hpresent
    have hempty : family.controls = [] := by
      by_contra hcontrols
      rw [answer_isSupported world hcontrols hpresent] at hskipped
      cases hskipped
    intro control hcontrol
    rw [hempty] at hcontrol
    cases hcontrol

/-- A family that owns its nodes is settled after families were restored without a refusal, if it
was one of them or was settled before. -/
theorem Family.OwnsNodes.settled_restoreFamilies {families : List Family}
    (howns : family.OwnsNodes (scene world).tree.place families)
    (hclean : ∀ entry ∈ (perform (restoreFamilies opening families) world).1,
      entry.outcome.failed = [])
    (hfamily : family ∈ families ∨ (scene world).Settled opening family.controls) :
    (scene (perform (restoreFamilies opening families) world).2).Settled opening
      family.controls := by
  induction families generalizing world with
  | nil => exact hfamily.resolve_left List.not_mem_nil
  | cons first rest ih =>
      rw [restoreFamilies_cons] at hclean ⊢
      refine ih howns.tail (fun entry hentry => hclean entry (List.mem_cons_of_mem _ hentry)) ?_
      by_cases hsame : first = family
      · subst hsame
        exact .inr (first.settled_restore howns.distinct (hclean _ List.mem_cons_self))
      · -- Another turn: the own one is still to come, or the family stays settled.
        refine hfamily.imp (fun hmem => ?_) (howns.sameOn_restore hsame).settled
        exact (List.mem_cons.mp hmem).resolve_left (Ne.symm hsame)

/-- A report counts no failure when no family has one. -/
theorem RestoreReport.failures_eq_zero_iff (report : RestoreReport) :
    report.failures = 0 ↔ ∀ entry ∈ report.families, entry.outcome.failed = [] := by
  unfold failures
  induction report.families with
  | nil => exact iff_of_true rfl fun _ hentry => absurd hentry List.not_mem_nil
  | cons entry rest ih =>
      rw [List.map_cons, List.foldr_cons, Nat.add_eq_zero_iff, ih, List.length_eq_zero_iff,
        List.forall_mem_cons]

end List

end KernelControls
