import KernelControls.BootRun
import KernelControls.Proofs.Boot.Reporting
import KernelControls.Proofs.FileTrees.TreeNodes

/-!
# Restoring at a site

A site has its nodes and its preferences in one tree of files, and nothing keeps the preference file
from being the file of a node.  Restoring reads it once and before the first write, so the values
that are restored are those that were saved before the run, whatever is written then.

## Strategy

The site is compared with the nodes of its tree beside a store that is frozen, which shows the
values saved before the run for ever.  Questions are answered alike (`Follows`), and a control is
restored alike: it asks for its value first, so the site has read its preferences when it writes.
With nodes and store apart the restoring is known exactly, up to what is seen of a file.  What is
not seen of a file without a text follows from another fact: a write leaves a file with a text.
-/

namespace KernelControls

/-! ## Preferences that are frozen -/

/-- A store that shows the same preferences for ever and saves nothing. -/
structure FrozenStore where
  preferences : Preferences

instance : PreferenceAccess (StateM FrozenStore) where
  saved? _ key := fun store => (store.preferences.get? key, store)
  save _ _ _ := fun store => (.error (.io .permissionDenied), store)

instance : LawfulStore FrozenStore where
  saved store _ key := store.preferences.get? key
  saved_answer _ _ _ := rfl
  saved_saved _ _ _ := rfl
  save_accepted _ _ _ _ haccepted := nomatch haccepted

/-! ## A site and its nodes -/

namespace FileStore

/-- The nodes of a site. -/
def nodes (store : FileStore FileTree) : TreeNodes :=
  ⟨store.site.nodeRoot, store.files⟩

/-- A site, and its nodes beside the values that its first opening sees. -/
structure Stands (store : FileStore FileTree) (pair : Paired TreeNodes FrozenStore) : Prop where
  opened : 0 < store.site.openings.length
  nodes : pair.nodes = store.nodes
  preferences : pair.store = ⟨store.preferences 0⟩

/-- A program at a site and the program on its nodes and frozen preferences give the same. -/
def Follows {Value : Type} (left : StateT Site (StateM FileTree) Value)
    (right : StateM (Paired TreeNodes FrozenStore) Value) : Prop :=
  ∀ store pair, Stands store pair →
    (store.run left).1 = (perform right pair).1 ∧ Stands (store.run left).2 (perform right pair).2

namespace Follows

variable {Value Other Item Reason : Type}

theorem pure (value : Value) : Follows (Pure.pure value) (Pure.pure value) :=
  fun _ _ hstands => ⟨rfl, hstands⟩

theorem bind {left : StateT Site (StateM FileTree) Value}
    {right : StateM (Paired TreeNodes FrozenStore) Value}
    {rest : Value → StateT Site (StateM FileTree) Other}
    {rest' : Value → StateM (Paired TreeNodes FrozenStore) Other} (hfirst : Follows left right)
    (hrest : ∀ value, Follows (rest value) (rest' value)) :
    Follows (left >>= rest) (right >>= rest') := by
  intro store pair hstands
  obtain ⟨hvalue, hafter⟩ := hfirst store pair hstands
  rw [run_bind, perform_bind, hvalue]
  exact hrest _ _ _ hafter

theorem attemptAll {attempt : Item → StateT Site (StateM FileTree) (Except Reason Unit)}
    {attempt' : Item → StateM (Paired TreeNodes FrozenStore) (Except Reason Unit)}
    (hattempt : ∀ item, Follows (attempt item) (attempt' item)) (items : List Item) :
    Follows (KernelControls.attemptAll attempt items)
      (KernelControls.attemptAll attempt' items) := by
  induction items with
  | nil => exact pure _
  | cons item rest ih => exact (hattempt item).bind fun _ => ih.bind fun _ => pure _

/-! ### Looking for nodes -/

theorem missingPaths (paths : List String) :
    Follows (KernelControls.missingPaths paths) (KernelControls.missingPaths paths) := by
  induction paths with
  | nil => exact pure _
  | cons path rest ih =>
      have hfirst : Follows (NodeAccess.isPresent path) (NodeAccess.isPresent path) := by
        intro store pair hstands
        refine ⟨?_, hstands⟩
        show store.files.isPresent _ = pair.nodes.files.isPresent _
        rw [hstands.nodes]
        rfl
      exact hfirst.bind fun _ => ih.bind fun _ => pure _

theorem isSupported (family : Family) : Follows family.isSupported family.isSupported :=
  (missingPaths _).bind fun _ => pure _

end Follows

/-! ## Writing a saved value -/

theorem run_write_nodes (store : FileStore FileTree) (path text : String) :
    store.run (NodeAccess.write path text) =
      let written := perform (NodeAccess.write path text) store.nodes
      (written.1, { store with files := written.2.files }) := rfl

namespace Follows

theorem restoreControl (control : Control) :
    Follows (control.restore 0) (control.restore 0) := by
  intro store pair hstands
  have hvalue : (pair.store.preferences.get? control.key).getD control.default =
      ((store.preferences 0).get? control.key).getD control.default := by
    rw [hstands.preferences]
  have hnodes : (store.looked 0).nodes = pair.nodes := by
    rw [hstands.nodes]
    simp [nodes]
  have hleft : store.run (control.restore 0) = (store.looked 0).run (NodeAccess.write control.path
      (control.codec.encode (((store.preferences 0).get? control.key).getD control.default))) := by
    unfold Control.restore Control.saved
    rw [run_bind, run_bind, run_saved?]
    rfl
  have hright : perform (control.restore 0) pair =
      perform (NodeAccess.write control.path
        (control.codec.encode (((store.preferences 0).get? control.key).getD control.default)))
        pair := by
    rw [← hvalue]
    rfl
  rw [hleft, hright, run_write_nodes, hnodes]
  generalize htext : control.codec.encode _ = text
  let written := perform (NodeAccess.write control.path text) pair.nodes
  have hroot : written.2.root = (store.looked 0).site.nodeRoot := by
    rw [pair.nodes.root_write, hstands.nodes, looked_nodeRoot]
    rfl
  -- The site has had to look at its preferences, so it knows them whatever was written.
  have hknown := preferences_refused hstands.opened written.2.files
  refine ⟨rfl, store.openings_looked 0 ▸ hstands.opened, ?_, ?_⟩
  · show written.2 = ⟨(store.looked 0).site.nodeRoot, _⟩
    rw [← hroot]
  · show pair.store = ⟨_⟩
    rw [hknown]
    exact hstands.preferences

theorem restoreFamily (family : Family) : Follows (family.restore 0) (family.restore 0) := by
  refine (isSupported family).bind fun supported => ?_
  cases supported with
  | true => exact (attemptAll restoreControl family.controls).bind fun _ => pure _
  | false => exact (missingPaths _).bind fun _ => pure _

theorem restoreFamilies (families : List Family) :
    Follows (KernelControls.restoreFamilies 0 families)
      (KernelControls.restoreFamilies 0 families) := by
  induction families with
  | nil => exact pure _
  | cons family rest ih => exact (restoreFamily family).bind fun _ => ih.bind fun _ => pure _

end Follows

end FileStore

/-! ## What a restoring at a site does -/

namespace Settings

variable (settings : Settings) (tree : FileTree)

/-- The preferences that are saved in the preference file of a tree. -/
def preferences : Preferences :=
  (perform (PreferenceFile.read settings.storePath) tree).1.toOption.getD .empty

/-- What a restoring depends on in a tree: which nodes are there, which of them refuse writes, and
what is saved. -/
def footing : Footing where
  isPresent path := tree.isPresent (Path.resolve settings.nodeRoot path)
  refusal path :=
    (tree.writeRefusal? (Path.resolve settings.nodeRoot path)).map (.unwritable path)
  saved _ key := (settings.preferences tree).get? key

/-- Where the path of a control's node leads. -/
def location (control : Control) : Location :=
  tree.lead (Path.resolve settings.nodeRoot control.path)

/-- The text that is restored to a control's node. -/
def restoredText (control : Control) : String :=
  control.codec.encode ((settings.footing tree).value 0 control)

/-- The control whose node is at a location, the last one among those that are written. -/
def lastWriter? (families : List Family) (place : Location) : Option Control :=
  (((settings.footing tree).writers families).filter fun control =>
    settings.location tree control = place).getLast?

/-- What stands at a location once families are restored: the text of the last control that is
written there, or what stood there before. -/
def restored? (families : List Family) (place : Location) : Option Entry :=
  match settings.lastWriter? tree families place with
  | some control => some (.file (settings.restoredText tree control).toUTF8)
  | none => tree.entryAt? place

/-- The nodes of a tree beside the preferences that are saved in it. -/
def pair : Paired TreeNodes FrozenStore :=
  ⟨⟨settings.nodeRoot, tree⟩, ⟨settings.preferences tree⟩⟩

theorem footing_pair : KernelControls.footing (settings.pair tree) = settings.footing tree := by
  unfold KernelControls.footing footing
  congr 1
  funext path
  exact (LawfulNodes.isPresent_answer path (settings.pair tree).nodes).symm

theorem restoreSite_pair (catalog : Catalog) :
    let restored := perform (restoreFamilies 0 catalog.families) (settings.pair tree)
    (perform (BootRun.restoreSite settings catalog) tree).1.1 = ⟨restored.1⟩ ∧
      (perform (BootRun.restoreSite settings catalog) tree).2 = restored.2.nodes.files := by
  have hstands : FileStore.Stands ⟨.start settings.nodeRoot settings.storePath, tree⟩
      (settings.pair tree) := ⟨Nat.one_pos, rfl, rfl⟩
  obtain ⟨houtcomes, hafter⟩ := FileStore.Follows.restoreFamilies catalog.families _ _ hstands
  exact ⟨congrArg RestoreReport.mk houtcomes, (congrArg TreeNodes.files hafter.nodes).symm⟩

end Settings

/-- The texts of controls, put on their nodes one after the other: the last one at a place stays. -/
theorem NodeTree.sight_putAll_map {Place : Type} [DecidableEq Place] (tree : NodeTree Place)
    (controls : List Control) (text : Control → String) (place : Place) :
    (tree.putAll (controls.map fun control => (control.path, text control))).sight place =
      match (controls.filter fun control => tree.place control.path = place).getLast? with
      | some control => .text (text control)
      | none => tree.sight place := by
  rw [sight_putAll, List.filter_map, List.getLast?_map]
  simp only [Function.comp_def]
  cases (controls.filter fun control => tree.place control.path = place).getLast? <;> rfl

/-! ### Files without a text -/

/-- A tree in which new texts may have come to stand, and nothing else changed. -/
structure FileTree.Texted (before after : FileTree) : Prop where
  workingDirectory : after.workingDirectory = before.workingDirectory
  entries : ∀ location, after.entryAt? location = before.entryAt? location ∨
    ∃ text : String, after.entryAt? location = some (.file text.toUTF8)

theorem FileTree.Texted.write {before tree changed : FileTree} (texted : before.Texted tree)
    {path text : String} (hwrite : tree.write path text.toUTF8 = .ok changed) :
    before.Texted changed := by
  obtain ⟨hroot, -, rfl⟩ := write_eq_ok hwrite
  refine ⟨texted.workingDirectory, fun location => ?_⟩
  rw [entryAt?_set _ _ _ _ hroot]
  split
  · exact .inr ⟨text, rfl⟩
  · exact texted.entries location

/-- What is seen of a tree and what it held before tell what it holds, if only texts are new. -/
theorem FileTree.Texted.entryAt? {before after : FileTree} (texted : before.Texted after)
    {location : Location}
    (hseen : after.sightAt (some location) = before.sightAt (some location)) :
    after.entryAt? location = before.entryAt? location := by
  rcases texted.entries location with hsame | ⟨text, htext⟩
  · exact hsame
  · have hbefore : before.sightAt (some location) = .text text :=
      hseen.symm.trans (Sight.ofEntry_eq_text.mpr htext)
    rw [htext]
    exact (Sight.ofEntry_eq_text.mp hbefore).symm

theorem harmless_texted (before : FileTree) : Harmless
    (fun pair : Paired TreeNodes FrozenStore => before.Texted pair.nodes.files)
    fun _ => True where
  isPresent _ _ htexted := htexted
  read path pair htexted := by
    show before.Texted (perform (NodeAccess.read path) pair.nodes).2.files
    rw [pair.nodes.read_world]
    exact htexted
  saved? _ _ _ htexted := htexted
  write path text _ pair htexted := by
    show before.Texted (perform (NodeAccess.write path text) pair.nodes).2.files
    rcases pair.nodes.write_cases path text with
      ⟨error, -, hrefused⟩ | ⟨-, changed, hwrite, hrun⟩
    · rw [hrefused]
      exact htexted
    · rw [hrun]
      exact htexted.write hwrite

namespace Settings

variable (settings : Settings) (tree : FileTree) {families : List Family} {control : Control}
  {place : Location}

/-- The node of a control that is written is a file, and its path leads there. -/
theorem find_of_mem_writers (hwriter : control ∈ (settings.footing tree).writers families) :
    ∃ old, tree.find (Path.resolve settings.nodeRoot control.path) =
      .ok (settings.location tree control, .file old) := by
  obtain ⟨hmem, haccepts⟩ := List.mem_filter.mp hwriter
  obtain ⟨family, hfamily, hcontrol⟩ := List.mem_flatMap.mp hmem
  obtain ⟨-, hsupports⟩ := List.mem_filter.mp hfamily
  have hpresent : tree.isPresent (Path.resolve settings.nodeRoot control.path) = true :=
    List.all_eq_true.mp (Bool.and_eq_true_iff.mp hsupports).2 control hcontrol
  -- Whether a write is refused does not depend on its text, so any text will do.
  have hwrite := tree.write_of_refusal (Path.resolve settings.nodeRoot control.path) .empty
  cases hrefusal : tree.writeRefusal? (Path.resolve settings.nodeRoot control.path) with
  | some cause =>
      unfold Footing.refuses footing at haccepts
      simp [hrefusal] at haccepts
  | none =>
      rw [hrefusal] at hwrite
      obtain ⟨changed, hchanged⟩ := hwrite
      exact FileTree.find_of_isPresent hpresent hchanged

theorem sightAt_restoreSite (catalog : Catalog) (place : Location) :
    (perform (BootRun.restoreSite settings catalog) tree).2.sightAt (some place) =
      match settings.lastWriter? tree catalog.families place with
      | some control => .text (settings.restoredText tree control)
      | none => tree.sightAt (some place) := by
  have hexact := (restoreFamilies_exact 0 (settings.pair tree) catalog.families).2.2
  rw [footing_pair, Footing.flatMap_nodes] at hexact
  -- A control that is written has its node where its path leads.
  have hlast : settings.lastWriter? tree catalog.families place =
      (((settings.footing tree).writers catalog.families).filter fun control =>
        tree.placeOf (Path.resolve settings.nodeRoot control.path) = some place).getLast? := by
    unfold lastWriter?
    congr 1
    refine List.filter_congr fun control hwriter => decide_eq_decide.mpr ?_
    obtain ⟨old, hfind⟩ := settings.find_of_mem_writers tree hwriter
    rw [(FileTree.find_iff_placeOf.mp hfind).1, Option.some_inj]
  rw [(settings.restoreSite_pair tree catalog).2, hlast]
  exact (congrFun (congrArg NodeTree.sight hexact) (some place)).trans
    (NodeTree.sight_putAll_map _ _ (settings.restoredText tree) _)

theorem texted_restoreSite (catalog : Catalog) :
    tree.Texted (perform (BootRun.restoreSite settings catalog) tree).2 := by
  have hkept : Maintains (fun pair : Paired TreeNodes FrozenStore => tree.Texted pair.nodes.files)
      (restoreFamilies 0 catalog.families) :=
    (harmless_texted tree).restoreFamilies fun _ _ _ _ => trivial
  rw [(settings.restoreSite_pair tree catalog).2]
  exact hkept (settings.pair tree) ⟨rfl, fun _ => .inl rfl⟩

/-- **Restoring at a site.**  Every location holds the text of the last control that is written
there, or what it held before. -/
theorem entryAt?_restoreSite (catalog : Catalog) :
    (perform (BootRun.restoreSite settings catalog) tree).2.entryAt? place =
      settings.restored? tree catalog.families place := by
  have hseen := settings.sightAt_restoreSite tree catalog place
  unfold restored?
  cases hlast : settings.lastWriter? tree catalog.families place with
  | some control =>
      rw [hlast] at hseen
      exact Sight.ofEntry_eq_text.mp hseen
  | none =>
      rw [hlast] at hseen
      -- Unwritten places show what they showed, and files that are no text cannot have come to be.
      exact (settings.texted_restoreSite tree catalog).entryAt? hseen

/-- Restoring changes no more than the content of files. -/
theorem sameShape_restoreSite (catalog : Catalog) :
    tree.SameShape (perform (BootRun.restoreSite settings catalog) tree).2 where
  workingDirectory := (settings.texted_restoreSite tree catalog).workingDirectory
  entries place := by
    rw [entryAt?_restoreSite]
    unfold restored?
    cases hlast : settings.lastWriter? tree catalog.families place with
    | none => rfl
    | some control =>
        obtain ⟨hwriter, hplace⟩ := List.mem_filter.mp (List.mem_of_getLast? hlast)
        obtain ⟨old, hfind⟩ := settings.find_of_mem_writers tree hwriter
        rw [of_decide_eq_true hplace] at hfind
        rw [(FileTree.find_iff_placeOf.mp hfind).2]
        rfl

/-- The report of a restoring says what follows from the tree before it. -/
theorem describes_restoreSite (catalog : Catalog) :
    List.Forall₂ (settings.footing tree).Describes catalog.families
      (perform (BootRun.restoreSite settings catalog) tree).1.1.families := by
  have houtcomes := (restoreFamilies_exact 0 (settings.pair tree) catalog.families).1
  rw [(settings.restoreSite_pair tree catalog).1]
  dsimp only
  rw [houtcomes, footing_pair, List.forall₂_map_right_iff, List.forall₂_same]
  exact fun family _ => (settings.footing tree).describes_outcome family

end Settings

end KernelControls
