import KernelControls.Proofs.Families.Catalogs
import KernelControls.Proofs.Sessions.Turns

/-!
# Nodes, saved values and sessions agree

Every value is there three times: on a node, in the store, and in the session that edits it.  As
long as editors take turns and nothing is refused, the three agree at every moment.  The nodes of
a family that nobody edits hold the saved values.  The nodes of a family under edit show what its
session previews, and what is saved is what the session captured.

## Strategy

`Engine.Reflects` says this of one family.  A turn concerns one family at most: the others own
their nodes and keys, so they see no difference (`InAgreement.untouched`).  For the family that it
concerns, each turn restores what the one before it may have left open: an opening finds the family
settled, previews keep the nodes at the previewed values, and either way of ending settles the
family again, by saving what the nodes show or by showing what is saved.
-/

namespace KernelControls

variable {Place : Type}

/-! ## A family under edit -/

/-- What is seen of a family under edit: the session captured what is saved, and the nodes show
what it previews. -/
structure Session.IsShown (session : Session) (seen : Scene Place) (opening : Opening)
    (controls : List Control) : Prop where
  captured : session.edits.map Edit.captured = controls.map (seen.value opening)
  current : ∀ edit ∈ session.edits,
    seen.tree.look edit.control.path = .text (edit.control.codec.encode edit.current)

/-- Previewing a value on one control of several with different nodes shows all of them. -/
theorem look_previewFirst [DecidableEq Place] {tree : NodeTree Place} {edits : List Edit}
    {name : String} {value : Int64} {edit : Edit}
    (hdistinct : (edits.map fun edit => tree.place edit.control.path).Nodup)
    (hcurrent : ∀ edit ∈ edits,
      tree.look edit.control.path = .text (edit.control.codec.encode edit.current))
    (hknown : edits.find? (fun edit => edit.name = name) = some edit) :
    ∀ shown ∈ Session.previewFirst name value edits,
      (tree.putAll [(edit.preview value).node]).look shown.control.path =
        .text (shown.control.codec.encode shown.current) := by
  have hput : ∀ path, (tree.putAll [(edit.preview value).node]).look path =
      if tree.place path = tree.place edit.control.path then
        .text (edit.control.codec.encode value) else tree.look path :=
    fun path => tree.sight_put _ _ (tree.place path)
  induction edits with
  | nil => cases hknown
  | cons first rest ih =>
      obtain ⟨hfirst, hrest⟩ := List.nodup_cons.mp hdistinct
      have hapart : ∀ later ∈ rest,
          tree.place later.control.path ≠ tree.place first.control.path := fun later hlater hsame =>
        hfirst (List.mem_map.mpr ⟨later, hlater, hsame⟩)
      unfold Session.previewFirst
      by_cases hname : first.name = name
      · rw [if_pos hname]
        rw [List.find?_cons_of_pos (by simpa using hname)] at hknown
        -- The first edit of the name is previewed, and the later ones have places of their own.
        obtain rfl : first = edit := Option.some.inj hknown
        intro shown hshown
        rw [hput]
        rcases List.mem_cons.mp hshown with rfl | hlater
        · exact if_pos rfl
        · rw [if_neg (hapart shown hlater)]
          exact hcurrent shown (List.mem_cons_of_mem _ hlater)
      · rw [if_neg hname]
        rw [List.find?_cons_of_neg (by simpa using hname)] at hknown
        intro shown hshown
        rcases List.mem_cons.mp hshown with rfl | hlater
        · -- The edit that is previewed comes later, so this one keeps what it showed.
          have hother := hapart edit (List.mem_of_find?_eq_some hknown)
          rw [hput, if_neg (Ne.symm hother)]
          exact hcurrent shown List.mem_cons_self
        · exact ih hrest (fun later hmem => hcurrent later (List.mem_cons_of_mem _ hmem)) hknown
            shown hlater

theorem look_putAll_edits [DecidableEq Place] {tree : NodeTree Place} {edits : List Edit}
    (hdistinct : (edits.map fun edit => tree.place edit.control.path).Nodup) :
    ∀ edit ∈ edits, (tree.putAll (edits.map Edit.node)).look edit.control.path =
      .text (edit.control.codec.encode edit.current) := by
  intro edit hedit
  have hnodes : ((edits.map Edit.node).map fun node => tree.place node.1).Nodup := by
    rw [List.map_map]
    exact hdistinct
  exact tree.look_putAll hnodes (List.mem_map_of_mem hedit)

/-! ## One family -/

/-- What an engine and a scene have to say about a family. -/
structure Engine.Reflects (engine : Engine) (seen : Scene Place) (family : Family) : Prop where
  settled : engine.NoneOn family.id → seen.Settled engine.opening family.controls
  shown : ∀ name session, engine.session? name = some session → session.family = family.id →
    session.IsShown seen engine.opening family.controls

/-- Nodes, saved values and sessions agree, in every family of a catalog without faults whose
families own their nodes. -/
structure Engine.InAgreement (engine : Engine) (seen : Scene Place) : Prop where
  sound : engine.catalog.Sound
  owns : ∀ family ∈ engine.catalog.families,
    family.OwnsNodes seen.tree.place engine.catalog.families
  inTurn : engine.InTurn
  faithful : engine.Faithful
  reflects : ∀ family ∈ engine.catalog.families, engine.Reflects seen family

namespace Engine.InAgreement

variable {engine after : Engine} {seen later : Scene Place} {name : String} {session : Session}
  {family focus : Family} (agreement : engine.InAgreement seen)

include agreement

theorem eq_of_id (hfamily : family ∈ engine.catalog.families)
    (hfocus : focus ∈ engine.catalog.families) (hid : focus.id = family.id) : focus = family := by
  have hfound := agreement.sound.get? hfocus
  rw [hid, agreement.sound.get? hfamily] at hfound
  exact (Option.some.inj hfound).symm

/-- What is known of a session that is open. -/
theorem of_session (hopen : engine.session? name = some session) :
    ∃ family ∈ engine.catalog.families, session.family = family.id ∧ family.mode = .session ∧
      session.opening = engine.opening ∧ session.edits.map Edit.control = family.controls ∧
      session.IsShown seen engine.opening family.controls := by
  obtain ⟨hopening, family, hfound, -, hcontrols⟩ := agreement.faithful name session hopen
  obtain ⟨known, hknown, hmode⟩ := agreement.inTurn.mode name session hopen
  obtain rfl : known = family := Option.some.inj (hknown.symm.trans hfound)
  have hfamily := List.mem_of_find?_eq_some hknown
  have hid : known.id = session.family := by
    simpa using List.find?_some hknown
  exact ⟨known, hfamily, hid.symm, hmode, hopening, hcontrols,
    (agreement.reflects known hfamily).shown name session hopen hid.symm⟩

theorem distinct_edits {edits : List Edit} (hfamily : family ∈ engine.catalog.families)
    (hcontrols : edits.map Edit.control = family.controls) :
    (edits.map fun edit => seen.tree.place edit.control.path).Nodup := by
  have hdistinct := (agreement.owns family hfamily).distinct
  rw [← hcontrols, List.map_map] at hdistinct
  exact hdistinct

/-- What concerns another family only is nothing to a family. -/
theorem untouched (hfamily : family ∈ engine.catalog.families)
    (hfocus : focus ∈ engine.catalog.families) (hother : focus ≠ family)
    (hopening : after.opening = engine.opening)
    (hsessions : ∀ name session, session.family ≠ focus.id →
      (after.session? name = some session ↔ engine.session? name = some session))
    (htree : later.tree.EqOutside (focus.controls.map Control.path) seen.tree)
    (hsaved : ∀ key, key ∉ focus.controls.map Control.key →
      later.saved engine.opening key = seen.saved engine.opening key) :
    after.Reflects later family := by
  have hreflects := agreement.reflects family hfamily
  have hsame : later.SameOn seen engine.opening family.controls :=
    (agreement.owns family hfamily).sameOn hfocus hother htree hsaved
  have hids : family.id ≠ focus.id := fun hid =>
    hother (agreement.eq_of_id hfamily hfocus hid.symm)
  constructor
  · intro hnone
    rw [hopening]
    refine hsame.settled (hreflects.settled fun name session hopen hid => ?_)
    exact hnone name session ((hsessions name session (hid ▸ hids)).mpr hopen) hid
  · intro name session hafter hid
    have hopen := (hsessions name session (hid ▸ hids)).mp hafter
    have hshown := hreflects.shown name session hopen hid
    obtain ⟨known, hknown, hknownId, -, -, hcontrols, -⟩ := agreement.of_session hopen
    obtain rfl : known = family :=
      agreement.eq_of_id hfamily hknown (hknownId.symm.trans hid)
    rw [hopening]
    refine ⟨?_, fun edit hedit => ?_⟩
    · rw [hshown.captured]
      exact List.map_congr_left fun control hcontrol => (hsame control hcontrol).2.symm
    · rw [(hsame edit.control (hcontrols ▸ List.mem_map_of_mem hedit)).1]
      exact hshown.current edit hedit

/-- An opening finds the family settled. -/
theorem withSession (hfocus : focus ∈ engine.catalog.families) (hnone : engine.NoneOn focus.id)
    (hfree : engine.session? name = none)
    (hpresent : ∀ control ∈ focus.controls, seen.tree.isPresent control.path = true)
    (hfamily : family ∈ engine.catalog.families) :
    (engine.withSession name (engine.newSession focus (.shared focus.id)
      (seen.capture engine.opening focus.controls))).Reflects seen family := by
  let opened := engine.newSession focus (.shared focus.id)
    (seen.capture engine.opening focus.controls)
  by_cases hsame : focus = family
  · subst hsame
    constructor
    · intro hafter
      -- The family has a session now, so nothing is claimed of an idle one.
      refine absurd rfl (hafter name opened ?_)
      simp [opened]
    · intro other found hfound hid
      rw [session?_withSession] at hfound
      split at hfound
      case isFalse => exact absurd hid (hnone other found hfound)
      obtain rfl : opened = found := Option.some.inj hfound
      refine ⟨?_, fun edit hedit => ?_⟩
      · show (focus.controls.map _).map Edit.captured = _
        rw [List.map_map]
        rfl
      · obtain ⟨control, hcontrol, rfl⟩ := List.mem_map.mp hedit
        -- What is captured is what is saved, and the settled nodes show it already.
        exact (agreement.reflects focus hfocus).settled hnone hpresent control hcontrol
  · refine agreement.untouched hfamily hfocus hsame rfl ?_ (.refl _ _) fun _ _ => rfl
    intro other found hid
    rw [session?_withSession]
    split
    · next hname =>
        rw [hname, hfree]
        refine iff_of_false (fun hfound => ?_) (fun hfound => by cases hfound)
        exact hid (Option.some.inj hfound ▸ rfl)
    · exact Iff.rfl

/-- Previews keep the nodes at the previewed values. -/
theorem putSession {edited : Session} (hopen : engine.session? name = some session)
    (hframe : edited.SameFrame session) (hsaved : later.saved = seen.saved)
    (htree : later.tree.EqOutside ((edited.edits.map Edit.control).map Control.path) seen.tree)
    (hcurrent : ∀ edit ∈ edited.edits,
      later.tree.look edit.control.path = .text (edit.control.codec.encode edit.current))
    (hfamily : family ∈ engine.catalog.families) :
    (engine.putSession name edited).Reflects later family := by
  obtain ⟨focus, hfocus, hid, -, -, hcontrols, hshown⟩ := agreement.of_session hopen
  by_cases hsame : focus = family
  · subst hsame
    constructor
    · intro hafter
      refine absurd (hframe.family.trans hid) (hafter name edited ?_)
      simp
    · intro other found hfound hfoundId
      rw [session?_putSession] at hfound
      split at hfound
      -- Whoever takes turns is alone on the family.
      case isFalse hother =>
        exact absurd (agreement.inTurn.alone other name found session hfound hopen
          (hfoundId.trans hid.symm)) hother
      obtain rfl : edited = found := Option.some.inj hfound
      refine ⟨?_, hcurrent⟩
      rw [hframe.captured, hshown.captured]
      unfold Scene.value
      rw [hsaved]
      rfl
  · rw [hframe.controls, hcontrols] at htree
    refine agreement.untouched hfamily hfocus hsame rfl ?_ htree fun key _ => by rw [hsaved]
    intro other found hother
    rw [session?_putSession]
    split
    · next hname =>
        subst hname
        refine iff_of_false (fun hfound => hother ?_) (fun hfound => hother ?_)
        · rw [← Option.some.inj hfound, hframe.family, hid]
        · rw [← Option.some.inj (hopen.symm.trans hfound), hid]
    · exact Iff.rfl

/-- An ending settles the family of the session. -/
theorem withoutSession (hopen : engine.session? name = some session)
    (htree : later.tree.EqOutside ((session.edits.map Edit.control).map Control.path) seen.tree)
    (hsaved : ∀ key, key ∉ (session.edits.map Edit.control).map Control.key →
      later.saved engine.opening key = seen.saved engine.opening key)
    (hagrees : later.Agrees engine.opening (session.edits.map Edit.control))
    (hfamily : family ∈ engine.catalog.families) :
    (engine.withoutSession name session).Reflects later family := by
  obtain ⟨focus, hfocus, hid, -, -, hcontrols, -⟩ := agreement.of_session hopen
  rw [hcontrols] at htree hsaved hagrees
  by_cases hsame : focus = family
  · subst hsame
    refine ⟨fun _ _ => hagrees, fun other found hfound hfoundId => ?_⟩
    rw [session?_withoutSession] at hfound
    split at hfound
    · cases hfound
    · next hother =>
        exact absurd (agreement.inTurn.alone other name found session hfound hopen
          (hfoundId.trans hid.symm)) hother
  · refine agreement.untouched hfamily hfocus hsame rfl ?_ htree hsaved
    intro other found hother
    rw [session?_withoutSession]
    split
    · next hname =>
        subst hname
        refine iff_of_false (fun hfound => by cases hfound) (fun hfound => hother ?_)
        rw [← Option.some.inj (hopen.symm.trans hfound), hid]
    · exact Iff.rfl

/-- A direct setting changes a family that no session is open on, which stays settled. -/
theorem setting [DecidableEq Place] {control : Control} {value : Int64}
    (hfocus : focus ∈ engine.catalog.families) (hmode : focus.mode = .direct)
    (hcontrol : control ∈ focus.controls)
    (hpresent : ∀ control ∈ focus.controls, seen.tree.isPresent control.path = true)
    (htree : later.tree = seen.tree.put control.path (control.codec.encode value))
    (hsaved : later.saved engine.opening =
      Function.update (seen.saved engine.opening) control.key (some value))
    (hfamily : family ∈ engine.catalog.families) : engine.Reflects later family := by
  by_cases hsame : focus = family
  · subst hsame
    -- Sessions are opened on families of the other mode only.
    have hnone : engine.NoneOn focus.id := by
      intro name session hopen hid
      obtain ⟨known, hknown, hknownId, hsession, -⟩ := agreement.of_session hopen
      rw [agreement.eq_of_id hfocus hknown (hknownId.symm.trans hid), hmode] at hsession
      cases hsession
    refine ⟨fun _ _ found hfound => ?_, fun name session hopen hid =>
      absurd hid (hnone name session hopen)⟩
    have hplaces := (agreement.owns focus hfocus).distinct
    unfold NodeTree.look Scene.value
    rw [htree, hsaved]
    show (seen.tree.put _ _).sight (seen.tree.place found.path) = _
    rw [NodeTree.sight_put]
    by_cases hwritten : found = control
    · rw [hwritten, if_pos rfl, Function.update_self]
      rfl
    · -- Another control has another place, hence another key.
      have hplace : seen.tree.place found.path ≠ seen.tree.place control.path := fun h =>
        hwritten (List.inj_on_of_nodup_map hplaces hfound hcontrol h)
      have hkey : found.key ≠ control.key := fun h => hplace (congrArg seen.tree.place h)
      rw [if_neg hplace, Function.update_of_ne hkey]
      exact (agreement.reflects focus hfocus).settled hnone hpresent found hfound
  · have hpaths : [control.path] ⊆ focus.controls.map Control.path :=
      List.cons_subset.mpr ⟨List.mem_map_of_mem hcontrol, List.nil_subset _⟩
    refine agreement.untouched hfamily hfocus hsame rfl (fun _ _ _ => Iff.rfl) ?_ fun key hkey => ?_
    · rw [htree]
      exact (seen.tree.eqOutside_put _ _).mono hpaths
    · rw [hsaved, Function.update_of_ne]
      rintro rfl
      exact hkey (List.mem_map_of_mem hcontrol)

section Turns

variable [DecidableEq Place]

/-- Every turn leaves every family in agreement. -/
theorem reflects_of_turn (turn : engine.Turn seen after later)
    (hfamily : family ∈ engine.catalog.families) : after.Reflects later family := by
  cases turn with
  | looking => exact agreement.reflects family hfamily
  | opening free none known mode present =>
      exact agreement.withSession (List.mem_of_find?_eq_some known) none free present hfamily
  | @previewing name control session edit value found known =>
      obtain ⟨focus, hfocus, -, -, -, hcontrols, hshown⟩ := agreement.of_session found
      refine agreement.putSession found (.preview session control value) rfl ?_ ?_ hfamily
      · refine (seen.tree.eqOutside_putAll _).mono (List.cons_subset.mpr ⟨?_, List.nil_subset _⟩)
        show edit.control.path ∈ ((Session.previewFirst control value session.edits).map
          Edit.control).map Control.path
        rw [control_previewFirst]
        exact List.mem_map_of_mem (List.mem_map_of_mem (List.mem_of_find?_eq_some known))
      · exact look_previewFirst (agreement.distinct_edits hfocus hcontrols) hshown.current known
  | @resetting name session found =>
      obtain ⟨focus, hfocus, -, -, -, hcontrols, -⟩ := agreement.of_session found
      have hframe := Session.SameFrame.previewDefaults session
      refine agreement.putSession found hframe rfl ?_ ?_ hfamily
      · rw [← paths_nodes]
        exact seen.tree.eqOutside_putAll _
      · exact look_putAll_edits (agreement.distinct_edits hfocus (hframe.controls.trans hcontrols))
  | @committing name session saved found saves keeps =>
      obtain ⟨focus, hfocus, -, -, hopening, -, hshown⟩ := agreement.of_session found
      rw [hopening] at saves keeps
      refine agreement.withoutSession found (.refl _ _) (fun key hkey => ?_) ?_ hfamily
      · refine keeps key fun edit hedit hsame => hkey ?_
        rw [hsame]
        exact List.mem_map_of_mem (List.mem_map_of_mem hedit)
      · intro control hcontrol
        -- What is saved now is what the session shows, and so do the nodes.
        obtain ⟨edit, hedit, rfl⟩ := List.mem_map.mp hcontrol
        show seen.tree.look edit.control.path = .text (edit.control.codec.encode
          ((saved engine.opening edit.control.key).getD edit.control.default))
        rw [saves edit hedit]
        exact hshown.current edit hedit
  | @reverting name session found =>
      obtain ⟨focus, hfocus, -, -, -, hcontrols, hshown⟩ := agreement.of_session found
      -- What is put back is what the session captured, and that is what is saved.
      have hreverted := session.reverted_eq_capture hcontrols hshown.captured
      have hcaptured := seen.control_capture engine.opening focus.controls
      rw [hreverted]
      refine agreement.withoutSession found ?_ (fun _ _ => rfl) ?_ hfamily
      · have houtside := seen.tree.eqOutside_putAll
          ((seen.capture engine.opening focus.controls).map Edit.node)
        rw [paths_nodes, hcaptured] at houtside
        rw [hcontrols]
        exact houtside
      · rw [hcontrols]
        intro control hcontrol
        exact look_putAll_edits (agreement.distinct_edits hfocus hcaptured) _
          (List.mem_map.mpr ⟨control, hcontrol, rfl⟩)
  | setting value known mode member present saves =>
      exact agreement.setting (List.mem_of_find?_eq_some known) mode member present rfl saves
        hfamily
  | restoring closed place settled =>
      refine ⟨fun _ => settled family hfamily, fun name session hopen => ?_⟩
      exact absurd rfl (noneOn_of_sessions_nil closed session.family name session hopen)

theorem after_turn (turn : engine.Turn seen after later) (faithful : after.Faithful) :
    after.InAgreement later where
  sound := by
    rw [turn.catalog]
    exact agreement.sound
  owns := by
    rw [turn.catalog, turn.place]
    exact agreement.owns
  inTurn := turn.inTurn agreement.inTurn
  faithful := faithful
  reflects family hfamily := agreement.reflects_of_turn turn (turn.catalog ▸ hfamily)

end Turns

end Engine.InAgreement

/-! ## Runs -/

variable [DecidableEq Place] {World : Type} [NodeAccess (StateM World)]
  [PreferenceAccess (StateM World)] [LawfulBackend World Place]

namespace Engine

variable {engine : Engine} {world : World}

/-- Restoring everything without a failure, while no session is open, brings about agreement. -/
theorem inAgreement_restore (sound : engine.catalog.Sound)
    (howns : ∀ family ∈ engine.catalog.families,
      family.OwnsNodes (scene world).tree.place engine.catalog.families)
    (hclosed : engine.sessions = [])
    (hidle : ∀ coordinator, engine.coordinators.openCount coordinator = 0)
    (hclean : (perform engine.restore world).1.failures = 0) :
    engine.InAgreement (scene (perform engine.restore world).2) where
  sound := sound
  owns := by
    rw [show (scene (perform engine.restore world).2).tree.place = (scene world).tree.place from
      restoreFamilies_place]
    exact howns
  inTurn := inTurn_of_sessions_nil hclosed hidle
  faithful name session hopen := by
    rw [session?_of_sessions_nil hclosed] at hopen
    cases hopen
  reflects family hfamily := by
    constructor
    · exact fun _ => (howns family hfamily).settled_restoreFamilies
        ((RestoreReport.failures_eq_zero_iff _).mp hclean) (.inl hfamily)
    · intro name session hopen
      rw [session?_of_sessions_nil hclosed] at hopen
      cases hopen

theorem InAgreement.run (agreement : engine.InAgreement (scene world)) {commands : List Command}
    (hturns : engine.takesTurns commands world = true) :
    (perform (engine.run commands) world).1.2.InAgreement
      (scene (perform (engine.run commands) world).2) := by
  induction commands generalizing engine world with
  | nil => exact agreement
  | cons command rest ih =>
      obtain ⟨hnow, hlater⟩ := Bool.and_eq_true_iff.mp hturns
      obtain ⟨hpermits, hsucceeds⟩ := Bool.and_eq_true_iff.mp hnow
      have turn :=
        turn_of_step agreement.inTurn agreement.faithful agreement.owns hpermits hsucceeds
      rw [engine.run_cons]
      exact ih (agreement.after_turn turn (agreement.faithful.step command world)) hlater

theorem InAgreement.answer_savedValue (agreement : engine.InAgreement (scene world))
    {family : Family} (hfamily : family ∈ engine.catalog.families) {control : Control}
    (hcontrol : control ∈ family.controls) :
    (perform (engine.savedValue family.id control.name) world).1 =
      .ok ((scene world).value engine.opening control) := by
  rw [engine.savedValue_known (agreement.sound.get? hfamily)
    (agreement.sound.control? hfamily hcontrol), ← answer_saved]
  rfl

end Engine

/-- **Nodes, saved values and sessions agree.**  Take a catalog made from the built-in one by
accepted insertions, with a node of its own for every control.  Restore everything without a
failure while no session is open, and then let editors take turns, with at most one session on a
family at a time, and nothing refused.  At every point a supported family without an open session
holds on its nodes the texts of its saved values, and every open session edits the controls of its
family, whose nodes hold the texts of its previewed values while the values that it captured are
the saved ones. -/
theorem nodes_store_and_sessions_agree (inserted : List Family) (engine : Engine) (before : World)
    (hcatalog : inserted.foldlM Catalog.insert Catalog.builtin = .ok engine.catalog)
    (hdistinct : ((engine.catalog.families.flatMap Family.controls).map fun control =>
      (scene before).tree.place control.path).Nodup)
    (hclosed : engine.sessions = [])
    (hidle : ∀ coordinator, engine.coordinators.openCount coordinator = 0)
    (hclean : (perform engine.restore before).1.failures = 0) (commands : List Command)
    (hturns : engine.takesTurns commands (perform engine.restore before).2 = true) :
    let ran := perform (engine.run commands) (perform engine.restore before).2
    (∀ family ∈ engine.catalog.families, ran.1.2.NoneOn family.id →
      (perform family.isSupported ran.2).1 = true →
      ∀ control ∈ family.controls, ∃ value,
        (perform (ran.1.2.savedValue family.id control.name) ran.2).1 = .ok value ∧
        (scene ran.2).tree.look control.path = .text (control.codec.encode value)) ∧
    (∀ name session, ran.1.2.session? name = some session →
      ∃ family ∈ engine.catalog.families, session.family = family.id ∧
        session.edits.map Edit.control = family.controls ∧
        ∀ edit ∈ session.edits,
          (perform (ran.1.2.savedValue family.id edit.name) ran.2).1 = .ok edit.captured ∧
          (scene ran.2).tree.look edit.control.path =
            .text (edit.control.codec.encode edit.current)) := by
  intro ran
  have hstart := Engine.inAgreement_restore (Catalog.sound_builtin.inserts hcatalog)
    (fun family hfamily => Family.ownsNodes_of_nodup hdistinct hfamily) hclosed hidle hclean
  have agreement : ran.1.2.InAgreement (scene ran.2) := hstart.run hturns
  have hsame : ran.1.2.catalog = engine.catalog := (run_keeps_catalog engine commands _).1
  rw [← hsame]
  constructor
  · intro family hfamily hnone hsupported control hcontrol
    refine ⟨_, agreement.answer_savedValue hfamily hcontrol, ?_⟩
    exact (agreement.reflects family hfamily).settled hnone
      (isPresent_of_isSupported ran.2 hsupported) control hcontrol
  · intro name session hopen
    obtain ⟨family, hfamily, hid, -, -, hcontrols, hshown⟩ := agreement.of_session hopen
    refine ⟨family, hfamily, hid, hcontrols, fun edit hedit => ⟨?_, hshown.current edit hedit⟩⟩
    have hcontrol : edit.control ∈ family.controls := hcontrols ▸ List.mem_map_of_mem hedit
    have hcaptured : session.edits.map Edit.captured =
        session.edits.map fun edit => (scene ran.2).value ran.1.2.opening edit.control := by
      rw [hshown.captured, ← hcontrols, List.map_map]
      rfl
    rw [List.map_inj_left.mp hcaptured edit hedit]
    exact agreement.answer_savedValue hfamily hcontrol

/-- A catalog in which two families were replaced and one was added: an accepted session with a
direct setting in between, a restoring, and a session that is still open. -/
theorem lamp_and_vibration_agree :
    let level (id : String) : Control := ⟨"level", "/n/" ++ id, .linear 3, 0, 9, 4⟩
    let family (id : String) (mode : Mode) : Family := ⟨id, id, mode, [level id]⟩
    let color := family "color_tuning" .session
    let volume := family "volume_boost" .session
    let lamp := family "lamp" .direct
    let intensity : Control :=
      ⟨"intensity", "/sys/class/timed_output/vibrator/pwm_value", .identity, 0, 100, 50⟩
    let engine := Engine.start
      ⟨[color, .imageScenario, volume, .dockAudio, .touchKeyBacklight, .vibration, lamp]⟩ 0
    let bench : Bench := { nodes := [(intensity.path, "?"), ("/n/lamp", "?")] }
    let commands : List Command :=
      [.openSession "first" "vibration" none, .setLive "first" "intensity" 70,
        .applyDirect "lamp" "level" 2, .commit "first", .restore none,
        .openSession "second" "vibration" none, .setLive "second" "intensity" 700]
    let ran := perform (engine.run commands) (perform engine.restore bench).2
    (∃ value, (perform (ran.1.2.savedValue lamp.id (level lamp.id).name) ran.2).1 = .ok value ∧
      (scene ran.2).tree.look (level lamp.id).path =
        .text ((level lamp.id).codec.encode value)) ∧
    (perform (ran.1.2.savedValue "vibration" intensity.name) ran.2).1 = .ok 70 ∧
      (scene ran.2).tree.look intensity.path = .text (intensity.codec.encode 700) := by
  intro level family color volume lamp intensity engine bench commands
  obtain ⟨hsettled, hsessions⟩ := nodes_store_and_sessions_agree [color, volume, lamp] engine bench
    (by decide +kernel) (by decide +kernel) rfl (fun _ => rfl) (by decide +kernel) commands
    (by decide +kernel)
  let edit : Edit := ⟨intensity, 70, 700⟩
  obtain ⟨edited, -, hid, -, hedits⟩ := hsessions "second"
    ⟨"vibration", 0, .shared "vibration", ⟨.shared "vibration"⟩, [edit]⟩ (by decide +kernel)
  obtain ⟨hsaved, hlook⟩ := hedits edit List.mem_cons_self
  have hlamp : lamp ∈ engine.catalog.families := by decide +kernel
  have hlevel : level lamp.id ∈ lamp.controls := List.mem_cons_self
  refine ⟨hsettled lamp hlamp (Engine.noneOn_of_all (by decide +kernel)) (by decide +kernel) _
    hlevel, ?_, hlook⟩
  rw [show "vibration" = edited.id from hid]
  exact hsaved

end KernelControls
