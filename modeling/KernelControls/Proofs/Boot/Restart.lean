import KernelControls.Proofs.Stores.FileStore
import KernelControls.Proofs.Boot.Restoring

/-!
# Committed values survive a restart

A session is committed and nothing is refused.  Then the machine goes down: the kernel forgets
what its nodes held, the sessions are gone, and of the store only the file is left.  After the
next start one restoring puts the committed values back on the nodes.

## Strategy

Whatever happened before, an open session edits exactly the controls of its family
(`Engine.Faithful`), so its commit saves a value for every one of them, also for those that were
never touched or whose node refused the preview.  Every accepted saving puts the file in place
anew with all that the opening sees; after the last one the file holds the committed values,
`saveEdits_held`.  A fresh opening reads them there, and `restoreFamilies_applied` does the rest.
-/

namespace KernelControls

/-! ## What a commit leaves in the file -/

variable {Nodes Files Place : Type} [DecidableEq Place] [NodeAccess (StateM Nodes)]
  [FileSystem (StateM Files)] [LawfulFiles Files]

omit [NodeAccess (StateM Nodes)] in
/-- After a batch of savings in which none was refused, the file holds what the opening sees. -/
theorem saveEdits_held (opening : Opening) {edits : List Edit} (hedits : edits ≠ [])
    {world : Paired Nodes (FileStore Files)}
    (haccepted : (perform (saveEdits opening edits) world).1 = []) :
    (perform (saveEdits opening edits) world).2.store.held =
      .ok ((perform (saveEdits opening edits) world).2.store.preferences opening) := by
  induction edits generalizing world with
  | nil => exact absurd rfl hedits
  | cons edit rest ih =>
      obtain ⟨hfirst, hrest⟩ := saveEdits_cons_accepted world haccepted
      -- What the file holds is settled by the last saving alone.
      by_cases hlast : rest = []
      · subst hlast
        obtain ⟨hsees, hholds⟩ := FileStore.save_accepted world.store opening hfirst
        exact hholds.trans (congrArg Except.ok hsees.symm)
      · exact ih hlast hrest

variable [lawful : LawfulNodes Nodes Place]

include lawful in
/-- A commit in which nothing was refused leaves the committed values in the file. -/
theorem held_of_commit {engine : Engine} {world : Paired Nodes (FileStore Files)} {name : String}
    {session : Session} (hopen : engine.session? name = some session) (hedits : session.edits ≠ [])
    (hkeys : (session.edits.map fun edit => edit.control.key).Nodup)
    (hclean : (perform (engine.step (.commit name)) world).1.1 = .closed ⟨.committed, []⟩) :
    ∃ committed : Preferences,
      (perform (engine.step (.commit name)) world).2.store.held = .ok committed ∧
      ∀ edit ∈ session.edits, committed.get? edit.control.key = some edit.current := by
  rw [engine.step_commit, engine.commit_some world hopen] at hclean ⊢
  have haccepted : (perform (saveEdits session.opening session.edits) world).1 = [] :=
    (Closing.mk.inj (Answer.closed.inj hclean)).2
  exact ⟨_, saveEdits_held session.opening hedits haccepted,
    (saveEdits_saved world session.opening hkeys haccepted).1⟩

/-! ## After the restart -/

/-- What is left of a store when a machine starts again: the file, which the opening that is used
from now on has not read yet. -/
structure FileStore.Restarted (before after : FileStore Files) (fresh : Opening) : Prop where
  files : after.files = before.files
  path : after.site.preferencePath = before.site.preferencePath
  unread : after.site.knowledge fresh = none

omit [LawfulFiles Files] in
theorem FileStore.Restarted.preferences {before after : FileStore Files} {fresh : Opening}
    (restarted : before.Restarted after fresh) {held : Preferences}
    (hheld : before.held = .ok held) : after.preferences fresh = held := by
  have hsame : after.held = before.held := by
    unfold FileStore.held
    rw [restarted.files, restarted.path]
  rw [after.preferences_of_unknown fresh restarted.unread, hsame, hheld]
  rfl

theorem control?_of_edit? {session : Session} {family : Family}
    (hcontrols : session.edits.map Edit.control = family.controls) {name : String} {edit : Edit}
    (hedit : session.edit? name = some edit) : family.control? name = some edit.control := by
  unfold Family.control?
  rw [← hcontrols, List.find?_map]
  exact congrArg (Option.map Edit.control) hedit

/-- **Committed values survive a restart.**  Let an engine work through any commands on any nodes
and any preference file, and let the commit of a session then report that nothing was refused.
Start again with the same catalog and the same file, on nodes that hold anything but are all
there.  If the family of the session owns its nodes, and no node refuses a write while everything
is restored, then the report counts every control of the family as written, every one of its nodes
holds the text of the value that the session had for it when it was committed, and that value is
the saved one.  Before the commit any write may have been refused, also those of the session. -/
theorem committed_values_survive_restart (catalog : Catalog) (opening : Opening)
    (commands : List Command) (world : Paired Nodes (FileStore Files)) (name : String)
    (session : Session) (family : Family) (boot : Paired Nodes (FileStore Files))
    (fresh : Opening) :
    let ran := perform ((Engine.start catalog opening).run commands) world
    let ended := perform (ran.1.2.step (.commit name)) ran.2
    let started := Engine.start catalog fresh
    let synced := perform started.restore boot
    ran.1.2.session? name = some session → catalog.get? session.family = some family →
    ended.1.1 = .closed ⟨.committed, []⟩ → ended.2.store.Restarted boot.store fresh →
    family.OwnsNodes (scene boot).tree.place catalog.families →
    (∀ control ∈ family.controls, (scene boot).tree.isPresent control.path = true) →
    restoreGoesWell fresh catalog.families boot = true →
    session.edits.map Edit.control = family.controls ∧
    synced.1.outcome? family.id = some (.applied family.controls.length []) ∧
    (∀ edit ∈ session.edits, (scene synced.2).tree.look edit.control.path =
      .text (edit.control.codec.encode edit.current)) ∧
    ∀ control edit, session.edit? control = some edit →
      (perform (started.savedValue family.id control) synced.2).1 = .ok edit.current := by
  intro ran ended started synced hopen hfamily hclean restarted howns hpresent hwell
  obtain ⟨-, found, hfound, hcontrols, hedits⟩ :=
    (faithful_start catalog opening).run commands world name session hopen
  rw [(run_keeps_catalog _ commands world).1] at hfound
  obtain rfl : family = found := Option.some.inj (hfamily.symm.trans hfound)
  have hsome : session.edits ≠ [] := fun hnone => hcontrols (by rw [← hedits, hnone]; rfl)
  have hkeys := nodup_keys_of_places _ hedits howns.distinct
  obtain ⟨committed, hheld, hcommitted⟩ := held_of_commit hopen hsome hkeys hclean
  have hid : family.id = session.family := by
    simpa using List.find?_some hfamily
  obtain ⟨houtcome, hagrees⟩ :=
    howns.restoreFamilies_applied (hid ▸ hfamily) hcontrols hpresent hwell
  -- The fresh opening reads what the commit left, and restoring saves nothing.
  have hvalue : ∀ edit ∈ session.edits,
      (scene synced.2).value fresh edit.control = edit.current := by
    intro edit hedit
    unfold Scene.value
    rw [show (scene synced.2).saved = (scene boot).saved from restoreFamilies_saved]
    show ((boot.store.preferences fresh).get? edit.control.key).getD edit.control.default = _
    rw [restarted.preferences hheld, hcommitted edit hedit]
    rfl
  refine ⟨hedits, houtcome, fun edit hedit => ?_, fun control edit hedit => ?_⟩
  · rw [← hvalue edit hedit]
    exact hagrees edit.control (hedits ▸ List.mem_map_of_mem hedit)
  · have hmem : edit ∈ session.edits := List.mem_of_find?_eq_some hedit
    have hcontrol : started.catalog.get? family.id = some family ∧
        family.control? control = some edit.control :=
      ⟨hid ▸ hfamily, control?_of_edit? hedits hedit⟩
    rw [started.savedValue_known hcontrol.1 hcontrol.2, ← hvalue edit hmem, ← answer_saved]
    rfl

/-- A value outside its range, on a node that refuses every write: it is committed all the same,
and the node gets it after the restart. -/
theorem vibration_survives_restart :
    let path := "/sys/class/timed_output/vibrator/pwm_value"
    let catalog : Catalog := ⟨[.imageScenario, .vibration]⟩
    let world : Paired Bench (FileStore FileTree) :=
      ⟨{ nodes := [(path, "50")], refusing := [path] },
        .start "" "data/preferences.toml", ⟨["work"], [(["work"], .directory)]⟩⟩
    let commands : List Command :=
      [.openSession "editor" "vibration" none, .setLive "editor" "intensity" 70,
        .resetSession "editor", .setLive "editor" "intensity" 700]
    let ran := perform ((Engine.start catalog 0).run commands) world
    let ended := perform (ran.1.2.step (.commit "editor")) ran.2
    let boot : Paired Bench (FileStore FileTree) :=
      ⟨{ nodes := [(path, "reset by the driver")] }, .start "" "data/preferences.toml",
        ended.2.store.files⟩
    let synced := perform (Engine.start catalog 0).restore boot
    synced.1.outcome? "vibration" = some (.applied 1 []) ∧
      (scene synced.2).tree.look path = .text "700" ∧
      (perform ((Engine.start catalog 0).savedValue "vibration" "intensity") synced.2).1 =
        .ok 700 := by
  intro path catalog world commands ran ended boot synced
  let edit : Edit := ⟨⟨"intensity", path, .identity, 0, 100, 50⟩, 50, 700⟩
  have hwell : restoreGoesWell 0 catalog.families boot = true := by decide +kernel
  obtain ⟨-, houtcome, hnodes, hsaved⟩ := committed_values_survive_restart catalog 0 commands world
    "editor" ⟨"vibration", 0, .shared "vibration", ⟨.shared "vibration"⟩, [edit]⟩ .vibration boot 0
    (by decide +kernel) (by decide +kernel) (by decide +kernel)
    ⟨by dsimp only [boot, ended, ran], by decide +kernel, by decide +kernel⟩
    ⟨by decide +kernel, by decide +kernel⟩ (by decide +kernel) hwell
  have hvalue : Codec.identity.encode 700 = "700" := by decide +kernel
  refine ⟨houtcome, ?_, hsaved "intensity" edit rfl⟩
  exact hvalue ▸ hnodes edit List.mem_cons_self

end KernelControls
