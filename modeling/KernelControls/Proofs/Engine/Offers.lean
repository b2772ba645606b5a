import KernelControls.Proofs.Families.Catalogs
import KernelControls.Proofs.Engine.DirectSettings
import KernelControls.Proofs.Values.Encoding
import KernelControls.Proofs.Boot.SiteRestoring

/-!
# A family is offered everywhere or nowhere

There are five ways to a family: it is asked for by itself or among all supported families, it is
restored with all others, a session is opened on it, or one of its controls is set directly.  Each
looks for the nodes by itself, and restoring does so in between the writes to other families, which
may have nodes in common with this one.  All the same they agree: a family is let through if it has
controls and all their nodes are there.

## Strategy

Nodes stand when neither a question nor a write to a node that is there makes one come or go
(`StandingNodes`).  Restoring writes to nodes of complete families only, so whenever it looks for a
node it finds what it would have found at the start (`restoreFamilies_judged`).  Steady backends
have nodes of this kind, and so has a site, where the preference file may be a node itself.
-/

namespace KernelControls

/-! ## Nodes that stand -/

section Standing

variable {World : Type} [NodeAccess (StateM World)]

/-- Whether the node of a path is there. -/
def isThere (world : World) (path : String) : Bool :=
  (perform (NodeAccess.isPresent path) world).1

/-- Nodes of which none comes or goes by a question or by a write to one that is there. -/
class StandingNodes (World : Type) [NodeAccess (StateM World)] [PreferenceAccess (StateM World)] :
    Prop where
  undisturbed : ∀ present, Undisturbed fun world : World => isThere world = present
  written : ∀ present path text, present path = true →
    Maintains (fun world : World => isThere world = present) (NodeAccess.write path text)

end Standing

/-- Steady nodes stand, whichever of them refuse writes. -/
instance StandingNodes.ofSteady {World Place : Type} [DecidableEq Place]
    [NodeAccess (StateM World)] [PreferenceAccess (StateM World)] [LawfulBackend World Place]
    [SteadyBackend World Place] : StandingNodes World := by
  have hthere : ∀ world : World, isThere world = (scene world).tree.isPresent := fun world =>
    funext fun path => LawfulNodes.isPresent_answer path world
  refine ⟨fun present => ⟨fun path world hworld => ?_, fun path world hworld => ?_,
    fun opening key world hworld => ?_⟩, fun present path text hpresent world hworld => ?_⟩
  · rw [hthere, OnlyLooks.isPresent path world, ← hthere, hworld]
  · rw [hthere, OnlyLooks.read path world, ← hthere, hworld]
  · rw [hthere, OnlyLooks.saved? opening key world, ← hthere, hworld]
  · rw [← hworld, hthere] at hpresent
    have hkept := (footing_write world hpresent text).1
    rw [hthere, ← hworld, hthere]
    exact congrArg Footing.isPresent hkept

/-- The nodes of a site stand, wherever its preference file is. -/
instance StandingNodes.ofSite : StandingNodes (FileStore FileTree) where
  undisturbed present :=
    { isPresent := fun path store hstore => by rw [FileStore.run_nodeIsPresent]; exact hstore
      read := fun path store hstore => by rw [FileStore.run_nodeRead]; exact hstore
      saved? := fun opening key store hstore => by
        rw [← hstore]
        show isThere (store.run (PreferenceAccess.saved? opening key)).2 = isThere store
        rw [FileStore.run_saved?]
        funext path
        show (store.looked opening).files.isPresent ((store.looked opening).nodeFile path) =
          store.files.isPresent (store.nodeFile path)
        simp [FileStore.nodeFile] }
  written present path text hpresent store hstore := by
    rw [← hstore] at hpresent ⊢
    replace hpresent : store.files.isPresent (store.nodeFile path) = true := hpresent
    rw [FileStore.write_node]
    funext other
    show (store.files.settle (store.files.write (store.nodeFile path) text.toUTF8)).2.isPresent
      (store.nodeFile other) = store.files.isPresent (store.nodeFile other)
    cases hwrite : store.files.write (store.nodeFile path) text.toUTF8 with
    | error cause => rfl
    | ok changed => exact (FileTree.SameShape.of_write hpresent hwrite).isPresent _

/-! ## Complete families -/

namespace Family

/-- A family that has controls, with all their nodes there. -/
def IsComplete (present : String → Bool) (family : Family) : Prop :=
  family.controls ≠ [] ∧ ∀ control ∈ family.controls, present control.path = true

instance (present : String → Bool) (family : Family) : Decidable (family.IsComplete present) :=
  inferInstanceAs (Decidable (_ ∧ _))

/-- The paths of the nodes that are not there, in order. -/
def absent (present : String → Bool) (family : Family) : List String :=
  (family.controls.map Control.path).filter fun path => !present path

variable {present : String → Bool} {family : Family}

theorem decide_isComplete (present : String → Bool) (family : Family) :
    (!family.controls.isEmpty && family.controls.all fun control => present control.path) =
      decide (family.IsComplete present) := by
  rw [Bool.eq_iff_iff, Bool.and_eq_true_iff, List.all_eq_true, decide_eq_true_iff]
  unfold IsComplete
  simp

/-- A family with controls that is not complete lacks a node. -/
theorem absent_ne_nil (hcontrols : family.controls ≠ []) (hnot : ¬family.IsComplete present) :
    family.absent present ≠ [] := by
  intro hnone
  refine hnot ⟨hcontrols, fun control hcontrol => ?_⟩
  have hpath := List.filter_eq_nil_iff.mp hnone control.path (List.mem_map_of_mem hcontrol)
  simpa using hpath

end Family

variable {World : Type} [NodeAccess (StateM World)] [PreferenceAccess (StateM World)]
  [StandingNodes World] {world : World} {family : Family}

/-! ## Asking -/

theorem isSupported_eq (family : Family) (world : World) :
    (perform family.isSupported world).1 = decide (family.IsComplete (isThere world)) := by
  rw [← Family.decide_isComplete]
  exact (StandingNodes.undisturbed (isThere world)).answer_isSupported
    (fun path _ hfound => congrFun hfound path) family rfl

theorem isSupported_isThere (family : Family) (world : World) :
    isThere (perform family.isSupported world).2 = isThere world :=
  (StandingNodes.undisturbed (isThere world)).isSupported family world rfl

theorem missing_eq (family : Family) (world : World) :
    (perform family.missing world).1 = family.absent (isThere world) :=
  (StandingNodes.undisturbed (isThere world)).answer_missingPaths
    (fun path _ hfound => congrFun hfound path) _ rfl

theorem supportedAmong_eq (families : List Family) (world : World) :
    (perform (Engine.supportedAmong families) world).1 =
      families.filter fun family => decide (family.IsComplete (isThere world)) := by
  simp only [← Family.decide_isComplete]
  exact (StandingNodes.undisturbed (isThere world)).answer_supportedAmong
    (fun path _ hfound => congrFun hfound path) families rfl

/-! ## Restoring -/

/-- What becomes of a family in a restoring: a complete one is restored, and any other is skipped
for the nodes that are not there. -/
structure Judged (present : String → Bool) (family : Family) (entry : FamilyOutcome) : Prop where
  id : entry.family = family.id
  applied : family.IsComplete present →
    ∃ written failures, entry.outcome = .applied written failures
  skipped : ¬family.IsComplete present → entry.outcome = .skipped (family.absent present)

theorem Judged.applied_iff {present : String → Bool} {entry : FamilyOutcome}
    (hjudged : Judged present family entry) :
    (∃ written failures, entry.outcome = .applied written failures) ↔
      family.IsComplete present := by
  constructor
  · rintro ⟨written, failures, happlied⟩
    by_contra hnot
    rw [hjudged.skipped hnot] at happlied
    cases happlied
  · exact hjudged.applied

/-- Writing back the values of nodes that are there leaves the nodes that are there. -/
theorem maintains_restoreControls {present : String → Bool} {controls : List Control}
    (hpresent : ∀ control ∈ controls, present control.path = true) (opening : Opening) :
    Maintains (fun world : World => isThere world = present)
      (attemptAll (Control.restore opening) controls) :=
  Maintains.attemptAll fun control hcontrol =>
    ((StandingNodes.undisturbed present).saved control opening).bind fun _ =>
      StandingNodes.written present control.path _ (hpresent control hcontrol)

theorem Family.restore_judged (opening : Opening) (family : Family) (world : World) :
    let restored := perform (family.restore opening) world
    Judged (isThere world) family restored.1 ∧ isThere restored.2 = isThere world := by
  have hlooked := isSupported_isThere family world
  have hsupported := isSupported_eq family world
  rcases family.restore_cases opening world with ⟨hyes, hrun⟩ | ⟨hno, hrun⟩
  · have hcomplete : family.IsComplete (isThere world) := by
      rwa [hyes, eq_comm, decide_eq_true_iff] at hsupported
    rw [hrun]
    exact ⟨⟨rfl, fun _ => ⟨_, _, rfl⟩, fun hnot => absurd hcomplete hnot⟩,
      maintains_restoreControls hcomplete.2 opening _ hlooked⟩
  · have hnot : ¬family.IsComplete (isThere world) := by
      rwa [hno, eq_comm, decide_eq_false_iff_not] at hsupported
    rw [hrun]
    refine ⟨⟨rfl, fun hcomplete => absurd hcomplete hnot, fun _ => ?_⟩, ?_⟩
    · rw [missing_eq, hlooked]
    · exact (StandingNodes.undisturbed (isThere world)).missingPaths _ _ hlooked

/-- However many families are restored before it, each is judged by the nodes that were there at
the start. -/
theorem restoreFamilies_judged (opening : Opening) (families : List Family) (world : World) :
    List.Forall₂ (Judged (isThere world)) families
      (perform (restoreFamilies opening families) world).1 := by
  induction families generalizing world with
  | nil => exact .nil
  | cons family rest ih =>
      obtain ⟨hjudged, hkept⟩ := family.restore_judged opening world
      have hrest := ih (perform (family.restore opening) world).2
      rw [hkept] at hrest
      exact .cons hjudged hrest

/-- Where ids are distinct, the outcome that a report has for an id is the one of its family. -/
theorem RestoreReport.outcome?_of_judged {present : String → Bool} {families : List Family}
    {entries : List FamilyOutcome} (hjudged : List.Forall₂ (Judged present) families entries)
    (hdistinct : (families.map Family.id).Nodup) (hfamily : family ∈ families) :
    ∃ entry, outcome? ⟨entries⟩ family.id = some entry.outcome ∧ Judged present family entry := by
  have hids : families.map Family.id = entries.map FamilyOutcome.family := by
    clear hdistinct hfamily
    induction hjudged with
    | nil => rfl
    | cons hfirst _ ih => rw [List.map_cons, List.map_cons, hfirst.id, ih]
  -- Family and entry stand at the same index of their lists.
  obtain ⟨index, hindex, rfl⟩ := List.getElem_of_mem hfamily
  have hbound : index < entries.length := hjudged.length_eq ▸ hindex
  have hentry : Judged present families[index] entries[index] := hjudged.get hindex hbound
  refine ⟨_, ?_, hentry⟩
  unfold outcome?
  rw [← hentry.id, find?_of_nodup_keys (hids ▸ hdistinct) (List.getElem_mem _)]
  rfl

/-! ## Families of a catalog -/

section Catalogued

variable {engine : Engine} (hdistinct : engine.catalog.ids.Nodup)
  (hfamily : family ∈ engine.catalog.families)
include hdistinct hfamily

theorem get?_of_mem_families : engine.catalog.get? family.id = some family :=
  find?_of_nodup_keys hdistinct hfamily

/-- Ids are distinct, so no other family stands in for one that is not complete. -/
theorem mem_supportedFamilies_iff :
    family.id ∈ (perform engine.supportedFamilies world).1.map Family.id ↔
      family.IsComplete (isThere world) := by
  have hlisted : (perform engine.supportedFamilies world).1 =
      engine.catalog.families.filter fun known => decide (known.IsComplete (isThere world)) :=
    supportedAmong_eq _ world
  rw [hlisted, List.mem_map]
  constructor
  · rintro ⟨known, hmem, hid⟩
    obtain ⟨hknown, hcomplete⟩ := List.mem_filter.mp hmem
    obtain rfl : known = family := List.inj_on_of_nodup_map hdistinct hknown hfamily hid
    exact of_decide_eq_true hcomplete
  · intro hcomplete
    exact ⟨family, List.mem_filter.mpr ⟨hfamily, decide_eq_true hcomplete⟩, rfl⟩

/-- Restoring everything judges each family of the catalog. -/
theorem restore_judged : ∃ entry,
    (perform engine.restore world).1.outcome? family.id = some entry.outcome ∧
      Judged (isThere world) family entry :=
  RestoreReport.outcome?_of_judged
    (restoreFamilies_judged engine.opening engine.catalog.families world) hdistinct hfamily

end Catalogued

/-! ## Opening and setting -/

section Engine

variable {engine : Engine} {id : String} (hknown : engine.family id = .ok family)
include hknown

/-- Under a free name, a session can be opened on a complete family and on no other. -/
theorem openSession_iff (hmode : family.mode = .session) {name : String}
    (hfree : engine.session? name = none) (coordinator : Option CoordinatorName) :
    (∃ answer, (perform (engine.openSession name id coordinator) world).1.1 = .ok answer) ↔
      family.IsComplete (isThere world) := by
  have hsupported := isSupported_eq family world
  constructor
  · rintro ⟨answer, hanswer⟩
    rcases engine.openSession_cases world name id coordinator with
      ⟨error, after, hrun, -⟩ | ⟨found, -, openable, -⟩
    · rw [hrun] at hanswer
      cases hanswer
    · obtain rfl : family = found := Except.ok.inj (hknown.symm.trans openable.known)
      rwa [openable.supported, eq_comm, decide_eq_true_iff] at hsupported
  · intro hcomplete
    rw [decide_eq_true hcomplete] at hsupported
    have hrun := engine.openSession_openable world hfree ⟨hknown, hmode, hsupported⟩ coordinator
    rw [hrun]
    exact ⟨family.id, rfl⟩

/-- A known control can be set on a complete family, and on any other the answer is that it is not
supported. -/
theorem applyDirect_unsupported_iff (hmode : family.mode = .direct) {name : String}
    {control : Control} (hcontrol : family.control? name = some control) (value : Int64) :
    (∃ other, (perform (engine.applyDirect id name value) world).1 =
      .error (.unsupported other)) ↔ ¬family.IsComplete (isThere world) := by
  have hfound := directControl_known hknown name
  rw [if_pos hmode, hcontrol] at hfound
  have hsupported := isSupported_eq family world
  by_cases hcomplete : family.IsComplete (isThere world)
  · rw [decide_eq_true hcomplete] at hsupported
    refine iff_of_false ?_ (not_not.mpr hcomplete)
    rintro ⟨other, hanswer⟩
    rw [engine.applyDirect_supported world value hfound hsupported] at hanswer
    -- Behind the gate only the store can refuse.
    let written := perform (control.write value) (perform family.isSupported world).2
    let saved := perform (PreferenceAccess.save engine.opening control.key value) written.2
    replace hanswer : ((saved.1.mapError EngineError.store).map fun _ => written.1.isOk) =
      .error (.unsupported other) := hanswer
    cases hsaved : saved.1 with
    | ok done => rw [hsaved] at hanswer; cases hanswer
    | error refusal => rw [hsaved] at hanswer; cases hanswer
  · rw [decide_eq_false hcomplete] at hsupported
    refine iff_of_true ⟨family.id, ?_⟩ hcomplete
    rw [engine.applyDirect_unsupported world value hfound hsupported]

end Engine

/-! ## All ways together -/

/-- **A family is offered everywhere or nowhere.**  Take any catalog whose ids are distinct, with or
without faults, any nodes that stand, whichever of them refuse writes, any saved values, and a
family of the catalog.  In one and the same state these are equivalent: the family has controls and
all their nodes are there; it is supported; it is among the supported families; restoring everything
restores it; a session can be opened on it, if it is edited in sessions; none of its controls is
refused as unsupported when it is set directly, if it is edited so.  The supported families stand in
the order of the catalog.  A family that is not complete is skipped with the paths of its missing
nodes in order, of which there is one at least if the family has no fault. -/
theorem offered_everywhere_or_nowhere (engine : Engine) (hdistinct : engine.catalog.ids.Nodup)
    (world : World) (hfamily : family ∈ engine.catalog.families) :
    let complete := family.IsComplete (isThere world)
    let supported := (perform engine.supportedFamilies world).1
    let outcome := (perform engine.restore world).1.outcome? family.id
    ((perform (engine.isSupported family.id) world).1 = true ↔ complete) ∧
    (family.id ∈ supported.map Family.id ↔ complete) ∧
    supported.Sublist engine.catalog.families ∧
    ((∃ written failures, outcome = some (.applied written failures)) ↔ complete) ∧
    (family.mode = .session → ∀ name coordinator, engine.session? name = none →
      ((∃ answer, (perform (engine.openSession name family.id coordinator) world).1.1 =
        .ok answer) ↔ complete)) ∧
    (family.mode = .direct → ∀ name control value, family.control? name = some control →
      ((∀ other, (perform (engine.applyDirect family.id name value) world).1 ≠
        .error (.unsupported other)) ↔ complete)) ∧
    (¬complete → outcome = some (.skipped (family.absent (isThere world))) ∧
      (family.validate = .ok () → family.absent (isThere world) ≠ [])) := by
  intro complete supported outcome
  have hget := get?_of_mem_families hdistinct hfamily
  have hknown : engine.family family.id = .ok family := by
    unfold Engine.family
    rw [hget]
  obtain ⟨entry, hentry, hjudged⟩ :
      ∃ entry, outcome = some entry.outcome ∧ Judged (isThere world) family entry :=
    restore_judged hdistinct hfamily
  refine ⟨?_, mem_supportedFamilies_iff hdistinct hfamily, ?_, ?_,
    fun hmode name coordinator hfree => openSession_iff hknown hmode hfree coordinator,
    fun hmode name control value hcontrol => ?_, fun hnot => ⟨?_, fun hvalid => ?_⟩⟩
  · unfold Engine.isSupported
    rw [hget]
    dsimp only
    rw [isSupported_eq, decide_eq_true_iff]
  · have hlisted : supported = engine.catalog.families.filter fun known =>
        decide (known.IsComplete (isThere world)) := supportedAmong_eq _ world
    rw [hlisted]
    exact List.filter_sublist
  · rw [hentry]
    simp only [Option.some.injEq]
    exact hjudged.applied_iff
  · rw [← not_exists, applyDirect_unsupported_iff hknown hmode hcontrol value, not_not]
  · rw [hentry, hjudged.skipped hnot]
  · have hsound := Family.controls_of_fault?_eq_none (Family.fault?_of_validate hvalid)
    exact Family.absent_ne_nil hsound.1 hnot

/-- A machine with a vibrator whose node refuses writes, and with the dock of the car alone. -/
def vibratorAndCarDock : Bench where
  nodes := [("/sys/class/timed_output/vibrator/pwm_value", "20"),
    ("/sys/class/misc//dockaudio/cardock_enable", "0")]
  refusing := ["/sys/class/timed_output/vibrator/pwm_value"]

theorem vibration_offered_docks_not :
    let engine := Engine.start .builtin 0
    engine.catalog.ids.Nodup ∧
      Family.vibration ∈ engine.catalog.families ∧ Family.dockAudio ∈ engine.catalog.families ∧
      (∃ written failures, (perform engine.restore vibratorAndCarDock).1.outcome? "vibration" =
        some (.applied written failures)) ∧
      (∃ answer, (perform (engine.openSession "main" "vibration" none) vibratorAndCarDock).1.1 =
        .ok answer) ∧
      "dock_audio" ∉ (perform engine.supportedFamilies vibratorAndCarDock).1.map Family.id ∧
      (perform engine.restore vibratorAndCarDock).1.outcome? "dock_audio" =
        some (.skipped ["/sys/class/misc/dockaudio/deskdock_enable"]) := by
  intro engine
  have hdistinct : engine.catalog.ids.Nodup := by decide +kernel
  have hvibration : Family.vibration ∈ engine.catalog.families := by decide +kernel
  have hdocks : Family.dockAudio ∈ engine.catalog.families := by decide +kernel
  have hcomplete : Family.vibration.IsComplete (isThere vibratorAndCarDock) := by decide +kernel
  have hlacking : ¬Family.dockAudio.IsComplete (isThere vibratorAndCarDock) := by decide +kernel
  obtain ⟨-, -, -, happlied, hopened, -, -⟩ :=
    offered_everywhere_or_nowhere engine hdistinct vibratorAndCarDock hvibration
  obtain ⟨-, hlisted, -, -, -, -, hskipped⟩ :=
    offered_everywhere_or_nowhere engine hdistinct vibratorAndCarDock hdocks
  have habsent : Family.dockAudio.absent (isThere vibratorAndCarDock) =
      ["/sys/class/misc/dockaudio/deskdock_enable"] := by decide +kernel
  refine ⟨hdistinct, hvibration, hdocks, happlied.mpr hcomplete,
    (hopened rfl "main" none rfl).mpr hcomplete, fun hmem => hlacking (hlisted.mp hmem), ?_⟩
  rw [← habsent]
  exact (hskipped hlacking).1

end KernelControls
