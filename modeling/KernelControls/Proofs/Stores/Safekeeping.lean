import KernelControls.Proofs.Backends.Correspondence
import KernelControls.Proofs.Engine.Maintaining

/-!
# Saved values in safekeeping

A property of the world that savings alone can break is kept by every command that saves nothing,
however far a batch of writes gets and whoever refuses it.  What a store keeps, the saved values and
the file they are in, is of this kind, as long as no node is a part of the store.

## Strategy

`Harmless` says of a property that neither questions nor writes to nodes break it; it is one lemma
for each operation up to `Harmless.step`.  Sessions write where the families of the catalog have
their controls, because an engine is `Faithful`.  A `Safekeeping` adds what a saving does, accepted
or refused.  Nothing is said about when anything is refused.  What a batch of savings leaves is then
one equation, `saved_saveEdits`: the values of the edits that were not refused lie over what was
saved before, the later over the earlier ones.
-/

namespace KernelControls

variable {World : Type} [NodeAccess (StateM World)] [PreferenceAccess (StateM World)]
  {holds : World → Prop} {isNode : String → Prop}

/-! ## Writes -/

/-- A property of the world that no question breaks and no write to a node. -/
structure Harmless (holds : World → Prop) (isNode : String → Prop) : Prop
    extends Undisturbed holds where
  write : ∀ path text, isNode path → Maintains holds (NodeAccess.write path text)

/-- All controls have the paths of nodes. -/
def Reaching (isNode : String → Prop) (controls : List Control) : Prop :=
  ∀ control ∈ controls, isNode control.path

/-- An engine whose families have their controls where nodes are, and whose sessions edit these. -/
structure Engine.Confined (engine : Engine) (isNode : String → Prop) : Prop where
  faithful : engine.Faithful
  paths : ∀ path ∈ engine.catalog.paths, isNode path

namespace Engine.Confined

variable {engine : Engine} (confined : engine.Confined isNode)
include confined

theorem reaching {family : Family} (hfamily : family ∈ engine.catalog.families) :
    Reaching isNode family.controls :=
  fun _ hcontrol => confined.paths _ (Catalog.mem_paths hfamily hcontrol)

theorem reaching_of_family {id : String} {family : Family}
    (hknown : engine.family id = .ok family) : Reaching isNode family.controls :=
  confined.reaching (List.mem_of_find?_eq_some (engine.get?_of_family hknown).1)

theorem reaching_of_session {name : String} {session : Session}
    (hopen : engine.session? name = some session) :
    Reaching isNode (session.edits.map Edit.control) := by
  obtain ⟨-, family, hfound, -, hcontrols⟩ := confined.faithful name session hopen
  rw [hcontrols]
  exact confined.reaching (List.mem_of_find?_eq_some hfound)

theorem step (command : Command) (world : World) :
    (perform (engine.step command) world).1.2.Confined isNode where
  faithful := confined.faithful.step command world
  paths := by
    rw [(step_keeps_catalog engine command world).1]
    exact confined.paths

end Engine.Confined

namespace Harmless

variable (harmless : Harmless holds isNode) {opening : Opening}
include harmless

theorem writeControl {control : Control} (hnode : isNode control.path) (value : Int64) :
    Maintains holds (control.write value) :=
  harmless.write control.path _ hnode

theorem writeEdits {edits : List Edit} (hreaching : Reaching isNode (edits.map Edit.control)) :
    Maintains holds (KernelControls.writeEdits edits) := by
  refine Maintains.bind (.attemptAll fun edit hedit => ?_) fun _ => .pure _
  exact harmless.writeControl (hreaching _ (List.mem_map_of_mem hedit)) _

theorem writeUntilRefused {pairs : List (Control × Int64)}
    (hnodes : ∀ pair ∈ pairs, isNode pair.1.path) :
    Maintains holds (KernelControls.writeUntilRefused pairs) := by
  induction pairs with
  | nil => exact .pure _
  | cons pair rest ih =>
      obtain ⟨hnode, hrest⟩ := List.forall_mem_cons.mp hnodes
      refine Maintains.bind (harmless.writeControl hnode _) fun result => ?_
      cases result with
      | error error => exact .pure _
      | ok done => exact ih hrest

theorem writeLine {family : Family} (hreaching : Reaching isNode family.controls)
    (line : String) : Maintains holds (family.writeLine line) := by
  unfold Family.writeLine
  cases valuesOfLine? line with
  | none => exact .pure _
  | some values =>
      refine .ite (harmless.writeUntilRefused fun pair hpair => ?_) (.pure _)
      exact hreaching _ (List.of_mem_zip hpair).1

theorem restoreFamily {family : Family} (hreaching : Reaching isNode family.controls) :
    Maintains holds (family.restore opening) := by
  refine (harmless.isSupported family).bind fun supported => .ite ?_ ?_
  · refine Maintains.bind (.attemptAll fun control hcontrol => ?_) fun _ => .pure _
    exact (harmless.saved control opening).bind fun value =>
      harmless.writeControl (hreaching control hcontrol) value
  · exact (harmless.missingPaths _).bind fun _ => .pure _

theorem restoreFamilies {families : List Family}
    (hreaching : ∀ family ∈ families, Reaching isNode family.controls) :
    Maintains holds (KernelControls.restoreFamilies opening families) := by
  induction families with
  | nil => exact .pure _
  | cons family rest ih =>
      obtain ⟨hfirst, hrest⟩ := List.forall_mem_cons.mp hreaching
      exact (harmless.restoreFamily hfirst).bind fun _ => (ih hrest).bind fun _ => .pure _

/-! ## Commands that save nothing -/

section Operations

variable {engine : Engine} (confined : engine.Confined isNode)
include confined

theorem setLive (name control : String) (value : Int64) :
    Maintains holds (engine.setLive name control value) := by
  unfold Engine.setLive
  cases hopen : engine.session? name with
  | none => exact .pure _
  | some session =>
      simp only
      cases hedit : session.edit? control with
      | none => exact .pure _
      | some edit =>
          have hmem : edit ∈ session.edits := List.mem_of_find?_eq_some hedit
          have hnode := confined.reaching_of_session hopen _ (List.mem_map_of_mem hmem)
          refine Maintains.bind (harmless.writeControl hnode value) fun result => ?_
          cases result <;> exact .pure _

theorem resetSession (name : String) : Maintains holds (engine.resetSession name) := by
  unfold Engine.resetSession
  cases hopen : engine.session? name with
  | none => exact .pure _
  | some session =>
      have hedits := confined.reaching_of_session hopen
      rw [← (Session.SameFrame.previewDefaults session).controls] at hedits
      exact Maintains.bind ((harmless.writeEdits hedits).bind fun _ => .pure _) fun _ => .pure _

theorem giveUp (name : String) : Maintains holds (engine.closeSession name false) := by
  unfold Engine.closeSession
  cases hopen : engine.session? name with
  | none => exact .pure _
  | some session =>
      have hedits := confined.reaching_of_session hopen
      -- Only the last one out writes, and it writes to the nodes that it edits.
      rw [← session.control_reverted] at hedits
      refine Maintains.bind ?_ fun _ => .pure _
      unfold Session.finish
      rw [if_neg Bool.false_ne_true]
      exact .ite ((harmless.writeEdits hedits).bind fun _ => .pure _) (.pure _)

theorem step {command : Command} (hcommit : ∀ name, command ≠ .commit name)
    (hdirect : ∀ id name value, command ≠ .applyDirect id name value) :
    Maintains holds (engine.step command) := by
  by_cases hasks : command.asks = true
  · exact harmless.step_of_asks engine hasks
  cases command with
  | openTicket | closeTicket => exact .pure _
  | openSession name id coordinator =>
      exact (harmless.openSession engine name id coordinator).bind fun _ => .pure _
  | setLive name control value =>
      exact (harmless.setLive confined name control value).bind fun _ => .pure _
  | resetSession name => exact (harmless.resetSession confined name).bind fun _ => .pure _
  | commit name => exact absurd rfl (hcommit name)
  | cancel name | drop name => exact (harmless.giveUp confined name).bind fun _ => .pure _
  | applyDirect id name value => exact absurd rfl (hdirect id name value)
  | writeLine id line =>
      refine Maintains.bind ?_ fun _ => .pure _
      unfold Engine.writeLine
      cases hfamily : engine.family id with
      | error error => exact .pure _
      | ok family =>
          exact (harmless.writeLine (confined.reaching_of_family hfamily) line).bind
            fun _ => .pure _
  | restore focus =>
      refine Maintains.bind ?_ fun _ => .pure _
      exact (harmless.restoreFamilies fun _ => confined.reaching).bind fun _ => .pure _
  | restoreFamily id =>
      refine Maintains.bind ?_ fun _ => .pure _
      unfold Engine.restoreFamily
      cases hfamily : engine.family id with
      | error error => exact .pure _
      | ok family =>
          exact (harmless.restoreFamily (confined.reaching_of_family hfamily)).bind
            fun _ => .pure _
  | _ => exact absurd rfl hasks

end Operations

end Harmless

/-! ## Stores in safekeeping -/

/-- What a store keeps: the values saved under its keys, and the bytes of the file that they are in,
where they are in a file. -/
structure Kept where
  saved : String → Option Int64
  file : Option ByteArray

/-- A store that keeps what is saved through one of its openings. -/
structure Safekeeping (World : Type) [NodeAccess (StateM World)]
    [PreferenceAccess (StateM World)] where
  opening : Opening
  /-- The paths of nodes that are no part of the store. -/
  isNode : String → Prop
  /-- The states in which the store keeps its word. -/
  Sound : World → Prop
  kept : World → Kept
  /-- Neither a question nor a write to a node changes what is kept. -/
  harmless : ∀ known, Harmless (fun world => Sound world ∧ kept world = known) isNode
  answer : ∀ key world, Sound world →
    (perform (PreferenceAccess.saved? opening key) world).1 = (kept world).saved key
  sound_save : ∀ key value, Maintains Sound (PreferenceAccess.save opening key value)
  /-- An accepted saving sets the value of its key. -/
  save_accepted : ∀ key value world, Sound world →
    (perform (PreferenceAccess.save opening key value) world).1 = .ok () →
    (kept (perform (PreferenceAccess.save opening key value) world).2).saved =
      Function.update (kept world).saved key (some value)
  /-- A refused saving sets nothing. -/
  save_refused : ∀ key value error world, Sound world →
    (perform (PreferenceAccess.save opening key value) world).1 = .error error →
    (kept (perform (PreferenceAccess.save opening key value) world).2).saved = (kept world).saved

/-! ## Batches of savings -/

section Batches

variable {World Item Reason : Type} (attempt : Item → StateM World (Except Reason Unit))

/-- The items of a batch that are not refused, in order. -/
def acceptedAmong : List Item → World → List Item
  | [], _ => []
  | item :: rest, world =>
    let done := perform (attempt item) world
    if done.1.isOk then item :: acceptedAmong rest done.2 else acceptedAmong rest done.2

theorem acceptedAmong_cons_ok {item : Item} {world : World} (rest : List Item) {done : Unit}
    (haccepted : (perform (attempt item) world).1 = .ok done) :
    acceptedAmong attempt (item :: rest) world =
      item :: acceptedAmong attempt rest (perform (attempt item) world).2 := by
  rw [acceptedAmong]
  simp only [haccepted]
  rfl

theorem acceptedAmong_cons_error {item : Item} {world : World} (rest : List Item) {reason : Reason}
    (hrefused : (perform (attempt item) world).1 = .error reason) :
    acceptedAmong attempt (item :: rest) world =
      acceptedAmong attempt rest (perform (attempt item) world).2 := by
  rw [acceptedAmong]
  simp only [hrefused]
  rfl

theorem acceptedAmong_sublist (items : List Item) (world : World) :
    (acceptedAmong attempt items world).Sublist items := by
  induction items generalizing world with
  | nil => exact .slnil
  | cons item rest ih =>
      cases hresult : (perform (attempt item) world).1 with
      | error reason => rw [acceptedAmong_cons_error attempt rest hresult]; exact (ih _).cons _
      | ok done => rw [acceptedAmong_cons_ok attempt rest hresult]; exact (ih _).cons_cons _

end Batches

namespace Safekeeping

variable (keeping : Safekeeping World) {engine : Engine} {world : World}

/-- The value of a control: what is saved for it, or its default. -/
def value (world : World) (control : Control) : Int64 :=
  ((keeping.kept world).saved control.key).getD control.default

theorem undisturbed (known : Kept) :
    Undisturbed fun world => keeping.Sound world ∧ keeping.kept world = known :=
  (keeping.harmless known).toUndisturbed

/-- A batch of savings puts the values of the edits that it does not refuse over what was saved. -/
theorem saved_saveEdits (hsound : keeping.Sound world) (edits : List Edit) :
    let after := (perform (saveEdits keeping.opening edits) world).2
    keeping.Sound after ∧ (keeping.kept after).saved =
      putOver (keeping.kept world).saved
        (acceptedAmong (Edit.save keeping.opening) edits world) := by
  induction edits generalizing world with
  | nil => exact ⟨hsound, rfl⟩
  | cons edit rest ih =>
      have hnext := keeping.sound_save edit.control.key edit.current world hsound
      obtain ⟨hafter, hsaved⟩ := ih hnext
      refine ⟨hafter, hsaved.trans ?_⟩
      cases hresult : (perform (edit.save keeping.opening) world).1 with
      | error error =>
          rw [acceptedAmong_cons_error _ rest hresult]
          rw [keeping.save_refused _ _ error world hsound hresult]
          rfl
      | ok done =>
          rw [acceptedAmong_cons_ok _ rest hresult]
          rw [keeping.save_accepted _ _ world hsound hresult]
          rfl

/-- What a session captures and what a saved value is answered with. -/
theorem answer_saved (hsound : keeping.Sound world) (control : Control) :
    (perform (control.saved keeping.opening) world).1 = keeping.value world control := by
  show Option.getD (perform (PreferenceAccess.saved? keeping.opening control.key) world).1 _ = _
  rw [keeping.answer control.key world hsound]
  rfl

theorem value_of_kept {other : World} (hkept : keeping.kept other = keeping.kept world)
    (control : Control) : keeping.value other control = keeping.value world control := by
  unfold value
  rw [hkept]

theorem answer_captureEdits (hsound : keeping.Sound world) (controls : List Control) :
    (perform (captureEdits keeping.opening controls) world).1 = controls.map fun control =>
      ⟨control, keeping.value world control, keeping.value world control⟩ := by
  induction controls generalizing world with
  | nil => rfl
  | cons control rest ih =>
      -- Asking for one value keeps what the later ones are answered from.
      have ⟨hnext, hkept⟩ := (keeping.undisturbed (keeping.kept world)).saved control
        keeping.opening world ⟨hsound, rfl⟩
      have hlater := ih hnext
      rw [funext (keeping.value_of_kept hkept)] at hlater
      rw [List.map_cons, ← hlater, ← keeping.answer_saved hsound]
      rfl

/-- An opening captures what was saved before it looked for the nodes. -/
theorem answer_captureEdits_looked (hsound : keeping.Sound world) (family : Family) :
    (perform (captureEdits keeping.opening family.controls)
      (perform family.isSupported world).2).1 = family.controls.map fun control =>
        ⟨control, keeping.value world control, keeping.value world control⟩ := by
  obtain ⟨hlooked, hkept⟩ :=
    (keeping.undisturbed (keeping.kept world)).isSupported family world ⟨hsound, rfl⟩
  rw [keeping.answer_captureEdits hlooked, funext (keeping.value_of_kept hkept)]

end Safekeeping

end KernelControls
