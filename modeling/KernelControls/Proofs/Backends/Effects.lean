import KernelControls.Proofs.Backends.Lawful
import KernelControls.Proofs.Engine.Maintaining
import Mathlib.Data.List.Induction
import Mathlib.Data.List.Nodup

/-!
# What operations do to a lawful backend

Every operation of the engine either only looks, writes nodes, or saves values.

## Strategy

`OnlyLooks` holds of the single questions, and so of everything that is built from them
(`Undisturbed`).
`Writes` relates the scenes before and after a batch of writes: nothing is saved, at most the
places of the batch change, and if no write was refused the tree is the one with all texts put
in order.  It is closed under appending batches, so `writes_writeEdits` is an induction over
the edits.  `LawfulStore.saved_saveEdits` is its counterpart for savings: they are put over what
was saved, in order, so under a key the last one counts.
-/

namespace KernelControls

variable {World Place : Type} [DecidableEq Place] [NodeAccess (StateM World)]
  [PreferenceAccess (StateM World)] [LawfulBackend World Place]

/-! ## Looking -/

/-- An action after which everything looks the same. -/
def OnlyLooks {Value : Type} (action : StateM World Value) : Prop :=
  ∀ world, scene (perform action world).2 = scene world

namespace OnlyLooks

theorem of_parts {Value : Type} {action : StateM World Value}
    (htree : ∀ world, LawfulNodes.tree (perform action world).2 = LawfulNodes.tree world)
    (hsaved : ∀ world, LawfulStore.saved (perform action world).2 = LawfulStore.saved world) :
    OnlyLooks action := by
  intro world
  unfold scene
  rw [htree, hsaved]

theorem isPresent (path : String) : OnlyLooks (NodeAccess.isPresent path : StateM World Bool) :=
  of_parts (LawfulNodes.isPresent_tree path) (LawfulBackend.isPresent_saved path)

theorem read (path : String) : OnlyLooks (NodeAccess.read path : StateM World _) :=
  of_parts (LawfulNodes.read_tree path) (LawfulBackend.read_saved path)

theorem saved? (opening : Opening) (key : String) :
    OnlyLooks (PreferenceAccess.saved? opening key : StateM World _) :=
  of_parts (LawfulBackend.saved_tree opening key) (LawfulStore.saved_saved opening key)

/-- What looks some way goes on looking so while one only asks. -/
theorem undisturbed (seen : Scene Place) : Undisturbed fun world : World => scene world = seen where
  isPresent path world hseen := (isPresent path world).trans hseen
  read path world hseen := (read path world).trans hseen
  saved? opening key world hseen := (saved? opening key world).trans hseen

theorem missingPaths (paths : List String) :
    OnlyLooks (KernelControls.missingPaths paths : StateM World _) :=
  fun world => (undisturbed (scene world)).missingPaths paths world rfl

theorem isSupported (family : Family) : OnlyLooks (family.isSupported : StateM World Bool) :=
  fun world => (undisturbed (scene world)).isSupported family world rfl

theorem saved (control : Control) (opening : Opening) :
    OnlyLooks (control.saved opening : StateM World Int64) :=
  fun world => (undisturbed (scene world)).saved control opening world rfl

theorem captureEdits (opening : Opening) (controls : List Control) :
    OnlyLooks (KernelControls.captureEdits opening controls : StateM World _) :=
  fun world => (undisturbed (scene world)).captureEdits opening controls world rfl

end OnlyLooks

theorem step_of_asks (engine : Engine) (world : World) {command : Command}
    (hasks : command.asks = true) :
    (perform (engine.step command) world).1.2 = engine ∧
      scene (perform (engine.step command) world).2 = scene world := by
  refine ⟨engine.step_of_leavesEngine world ?_, ?_⟩
  · cases command <;> first | rfl | cases hasks
  · exact (OnlyLooks.undisturbed (scene world)).step_of_asks engine hasks world rfl

/-! ## What questions find -/

variable (world : World)

/-- The value of a control as an opening sees it: what was saved, or the default. -/
def Scene.value (seen : Scene Place) (opening : Opening) (control : Control) : Int64 :=
  (seen.saved opening control.key).getD control.default

/-- Every node holds the text of its control's value. -/
def Scene.Agrees (seen : Scene Place) (opening : Opening) (controls : List Control) : Prop :=
  ∀ control ∈ controls,
    seen.tree.look control.path = .text (control.codec.encode (seen.value opening control))

instance (seen : Scene Place) (opening : Opening) (controls : List Control) :
    Decidable (seen.Agrees opening controls) :=
  inferInstanceAs (Decidable (∀ control ∈ controls, _))

theorem answer_saved (control : Control) (opening : Opening) :
    (perform (control.saved opening) world).1 = (scene world).value opening control := by
  show Option.getD (perform (PreferenceAccess.saved? opening control.key) world).1 _ = _
  rw [LawfulStore.saved_answer]
  rfl

theorem answer_captureEdits (opening : Opening) (controls : List Control) :
    (perform (captureEdits opening controls) world).1 = controls.map fun control =>
      ⟨control, (scene world).value opening control, (scene world).value opening control⟩ := by
  induction controls generalizing world with
  | nil => rfl
  | cons control rest ih =>
      have hlater := ih (perform (control.saved opening) world).2
      rw [OnlyLooks.saved control opening world] at hlater
      rw [List.map_cons, ← hlater, ← answer_saved]
      rfl

theorem answer_missingPaths (paths : List String) :
    (perform (missingPaths paths) world).1 =
      paths.filter fun path => !(scene world).tree.isPresent path :=
  (OnlyLooks.undisturbed (scene world)).answer_missingPaths
    (fun path found hfound => hfound ▸ LawfulNodes.isPresent_answer path found) paths rfl

theorem answer_isSupported_eq (family : Family) :
    (perform family.isSupported world).1 = (!family.controls.isEmpty &&
      family.controls.all fun control => (scene world).tree.isPresent control.path) :=
  (OnlyLooks.undisturbed (scene world)).answer_isSupported
    (fun path found hfound => hfound ▸ LawfulNodes.isPresent_answer path found) family rfl

theorem answer_isSupported {family : Family} (hcontrols : family.controls ≠ [])
    (hpresent : ∀ control ∈ family.controls, (scene world).tree.isPresent control.path = true) :
    (perform family.isSupported world).1 = true := by
  rw [answer_isSupported_eq, List.all_eq_true.mpr hpresent]
  simp [hcontrols]

theorem isPresent_of_isSupported {family : Family}
    (hsupported : (perform family.isSupported world).1 = true) :
    ∀ control ∈ family.controls, (scene world).tree.isPresent control.path = true := by
  rw [answer_isSupported_eq] at hsupported
  exact List.all_eq_true.mp (Bool.and_eq_true_iff.mp hsupported).2

/-! ## Batches of writes -/

/-- What a batch of writes did: nothing was saved, at most the places of the batch changed, and
if it went well the tree has all its texts. -/
structure Writes (nodes : List (String × String)) (accepted : Prop)
    (before after : Scene Place) : Prop where
  saved : after.saved = before.saved
  outside : after.tree.EqOutside (nodes.map Prod.fst) before.tree
  accepted : accepted → after.tree = before.tree.putAll nodes

namespace Writes

variable {before middle after : Scene Place} {accepted acceptedRest acceptedAll : Prop}

theorem nil (before : Scene Place) : Writes [] accepted before before :=
  ⟨rfl, .refl _ _, fun _ => rfl⟩

theorem node (path text : String) (world : World) :
    Writes [(path, text)] ((perform (NodeAccess.write path text) world).1 = .ok ())
      (scene world) (scene (perform (NodeAccess.write path text) world).2) where
  saved := LawfulBackend.write_saved path text world
  outside := LawfulNodes.write_outside path text world
  accepted := LawfulNodes.write_accepted path text world

theorem cons {node : String × String} {rest : List (String × String)}
    (hnode : Writes [node] accepted before middle) (hrest : Writes rest acceptedRest middle after)
    (haccepted : acceptedAll → accepted ∧ acceptedRest) :
    Writes (node :: rest) acceptedAll before after where
  saved := hrest.saved.trans hnode.saved
  outside :=
    (hrest.outside.mono (List.subset_cons_self _ _)).trans
      (hnode.outside.mono (List.cons_subset_cons _ (List.nil_subset _)))
  accepted hall := by
    rw [hrest.accepted (haccepted hall).2, hnode.accepted (haccepted hall).1]
    rfl

theorem of_imp {nodes : List (String × String)} (h : Writes nodes accepted before after)
    (himp : acceptedAll → accepted) : Writes nodes acceptedAll before after where
  saved := h.saved
  outside := h.outside
  accepted hall := h.accepted (himp hall)

/-- After a batch that went well, all that changed are the texts of the batch. -/
theorem eq_putAll {nodes : List (String × String)} (h : Writes nodes accepted before after)
    (haccepted : accepted) : after = ⟨before.tree.putAll nodes, before.saved⟩ := by
  rw [← h.accepted haccepted, ← h.saved]

/-- Writes reach only the places of their paths. -/
theorem eqOutside {nodes : List (String × String)} {paths : List String} {start : NodeTree Place}
    (h : Writes nodes accepted before after) (hsub : nodes.map Prod.fst ⊆ paths)
    (hbefore : before.tree.EqOutside paths start) : after.tree.EqOutside paths start :=
  (h.outside.mono hsub).trans hbefore

end Writes

/-- The node of an edit with the text of its previewed value. -/
def Edit.node (edit : Edit) : String × String :=
  (edit.control.path, edit.control.codec.encode edit.current)

theorem paths_nodes (edits : List Edit) :
    (edits.map Edit.node).map Prod.fst = (edits.map Edit.control).map Control.path := by
  rw [List.map_map, List.map_map]
  rfl

/-- In a batch nothing is refused when neither the first item is refused nor a later one. -/
theorem attemptAll_cons_eq_nil_iff {World Item Reason : Type}
    {attempt : Item → StateM World (Except Reason Unit)} {item : Item} {rest : List Item}
    {world : World} : (perform (attemptAll attempt (item :: rest)) world).1 = [] ↔
      (perform (attempt item) world).1 = .ok () ∧
        (perform (attemptAll attempt rest) (perform (attempt item) world).2).1 = [] := by
  rw [perform, attemptAll_cons_run]
  show noteRefusal item (perform (attempt item) world).1 _ = [] ↔ _
  cases (perform (attempt item) world).1 with
  | ok done => exact ⟨fun hrest => ⟨rfl, hrest⟩, fun hboth => hboth.2⟩
  | error reason =>
      constructor
      · intro hrefused
        cases hrefused
      · rintro ⟨hitem, -⟩
        cases hitem

omit [PreferenceAccess (StateM World)] in
theorem writeEdits_eq_nil_iff {edits : List Edit} {world : World} :
    (perform (writeEdits edits) world).1 = [] ↔
      (perform (attemptAll Edit.writeCurrent edits) world).1 = [] := by
  show refusedNames _ = [] ↔ _
  exact List.map_eq_nil_iff

theorem writes_writeEdits (edits : List Edit) :
    Writes (edits.map Edit.node) ((perform (writeEdits edits) world).1 = [])
      (scene world) (scene (perform (writeEdits edits) world).2) := by
  induction edits generalizing world with
  | nil => exact .nil _
  | cons edit rest ih =>
      refine .cons (.node edit.node.1 edit.node.2 world) (ih (perform edit.writeCurrent world).2)
        fun hall => ?_
      rw [writeEdits_eq_nil_iff] at hall ⊢
      exact attemptAll_cons_eq_nil_iff.mp hall

/-! ## Batches of savings -/

/-- Edits of controls whose paths name different places have different keys. -/
theorem nodup_keys_of_places {Place : Type} (place : String → Place) {edits : List Edit}
    {controls : List Control} (hedits : edits.map Edit.control = controls)
    (hplaces : (controls.map fun control => place control.path).Nodup) :
    (edits.map fun edit => edit.control.key).Nodup := by
  rw [← hedits, List.map_map] at hplaces
  apply List.Nodup.of_map place
  rw [List.map_map]
  exact hplaces

theorem saveEdits_tree (opening : Opening) (edits : List Edit) :
    (scene (perform (saveEdits opening edits) world).2).tree = (scene world).tree := by
  induction edits generalizing world with
  | nil => rfl
  | cons edit rest ih =>
      exact (ih (perform (edit.save opening) world).2).trans
        (LawfulBackend.save_tree opening edit.control.key edit.current world)

omit [NodeAccess (StateM World)] in
theorem saveEdits_eq_nil_iff {opening : Opening} {edits : List Edit} {world : World} :
    (perform (saveEdits opening edits) world).1 = [] ↔
      (perform (attemptAll (Edit.save opening) edits) world).1 = [] := by
  show refusedNames _ = [] ↔ _
  exact List.map_eq_nil_iff

omit [NodeAccess (StateM World)] in
theorem saveEdits_cons_accepted {opening : Opening} {edit : Edit} {rest : List Edit}
    (haccepted : (perform (saveEdits opening (edit :: rest)) world).1 = []) :
    (perform (edit.save opening) world).1 = .ok () ∧
      (perform (saveEdits opening rest) (perform (edit.save opening) world).2).1 = [] := by
  rw [saveEdits_eq_nil_iff] at haccepted ⊢
  exact attemptAll_cons_eq_nil_iff.mp haccepted

/-- Saved values with the values of edits over them, the later over the earlier ones. -/
def putOver (saved : String → Option Int64) (edits : List Edit) : String → Option Int64 :=
  edits.foldl (fun under edit => Function.update under edit.control.key (some edit.current)) saved

/-- Whether an edit is about a key. -/
def Edit.isAbout (key : String) (edit : Edit) : Bool :=
  edit.control.key = key

theorem Edit.isAbout_iff {key : String} {edit : Edit} :
    edit.isAbout key = true ↔ edit.control.key = key :=
  decide_eq_true_iff

theorem mem_of_findRev?_eq_some {Item : Type} {holds : Item → Bool} {items : List Item}
    {item : Item} (hfound : items.findRev? holds = some item) :
    item ∈ items ∧ holds item = true := by
  rw [List.findRev?_eq_find?_reverse] at hfound
  exact ⟨List.mem_reverse.mp (List.mem_of_find?_eq_some hfound), List.find?_some hfound⟩

/-- Some edit is the last one about the key of an edit. -/
theorem exists_findRev?_isAbout {edits : List Edit} {edit : Edit} (hedit : edit ∈ edits) :
    ∃ last ∈ edits, edits.findRev? (Edit.isAbout edit.control.key) = some last ∧
      last.control.key = edit.control.key := by
  have hsome : (edits.findRev? (Edit.isAbout edit.control.key)).isSome = true := by
    rw [List.findRev?_eq_find?_reverse, List.find?_isSome]
    exact ⟨edit, List.mem_reverse.mpr hedit, Edit.isAbout_iff.mpr rfl⟩
  obtain ⟨last, hlast⟩ := Option.isSome_iff_exists.mp hsome
  obtain ⟨hmem, habout⟩ := mem_of_findRev?_eq_some hlast
  exact ⟨last, hmem, hlast, Edit.isAbout_iff.mp habout⟩

/-- What is saved under a key is the value of the last edit about it. -/
theorem putOver_apply (saved : String → Option Int64) (edits : List Edit) (key : String) :
    putOver saved edits key = match edits.findRev? (Edit.isAbout key) with
      | some edit => some edit.current
      | none => saved key := by
  induction edits using List.reverseRecOn with
  | nil => rfl
  | append_singleton before edit ih =>
      have hput : putOver saved (before ++ [edit]) =
          Function.update (putOver saved before) edit.control.key (some edit.current) :=
        List.foldl_append
      rw [hput, Function.update_apply, ih, List.findRev?_eq_find?_reverse,
        List.findRev?_eq_find?_reverse, List.reverse_concat, List.find?_cons]
      by_cases hkey : key = edit.control.key
      · have habout : edit.isAbout key = true := Edit.isAbout_iff.mpr hkey.symm
        rw [if_pos hkey, habout]
      · have habout : edit.isAbout key = false := decide_eq_false (Ne.symm hkey)
        rw [if_neg hkey, habout]

/-- A batch of savings in which none was refused puts the values of the edits over what was
saved. -/
theorem LawfulStore.saved_saveEdits {Store : Type} [PreferenceAccess (StateM Store)]
    [LawfulStore Store] (opening : Opening) {edits : List Edit} {store : Store}
    (haccepted : (perform (saveEdits opening edits) store).1 = []) :
    saved (perform (saveEdits opening edits) store).2 opening =
      putOver (saved store opening) edits := by
  induction edits generalizing store with
  | nil => rfl
  | cons edit rest ih =>
      obtain ⟨hfirst, hrest⟩ := saveEdits_cons_accepted store haccepted
      have hset := save_accepted opening edit.control.key edit.current store hfirst
      have hlater := ih hrest
      rw [show saved (perform (edit.save opening) store).2 opening = _ from hset] at hlater
      exact hlater

/-- A batch of savings in which none was refused sets the values of distinct keys, and leaves
the other keys alone. -/
theorem saveEdits_saved (opening : Opening) {edits : List Edit}
    (hkeys : (edits.map fun edit => edit.control.key).Nodup)
    (haccepted : (perform (saveEdits opening edits) world).1 = []) :
    let saved := (scene (perform (saveEdits opening edits) world).2).saved opening
    (∀ edit ∈ edits, saved edit.control.key = some edit.current) ∧
      ∀ key, (∀ edit ∈ edits, key ≠ edit.control.key) →
        saved key = (scene world).saved opening key := by
  intro saved
  have hsaved : saved = putOver ((scene world).saved opening) edits :=
    LawfulStore.saved_saveEdits opening haccepted
  rw [hsaved]
  refine ⟨fun edit hedit => ?_, fun key hkey => ?_⟩
  · obtain ⟨last, hlast, hfound, hsame⟩ := exists_findRev?_isAbout hedit
    obtain rfl : last = edit := List.inj_on_of_nodup_map hkeys hlast hedit hsame
    rw [putOver_apply, hfound]
  · have hnone : edits.findRev? (Edit.isAbout key) = none := by
      rw [List.findRev?_eq_find?_reverse, List.find?_eq_none]
      intro edit hedit habout
      exact hkey edit (List.mem_reverse.mp hedit) (Edit.isAbout_iff.mp habout).symm
    rw [putOver_apply, hnone]

end KernelControls
