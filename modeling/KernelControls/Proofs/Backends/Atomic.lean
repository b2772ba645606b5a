import KernelControls.Proofs.Stores.SparedFiles
import KernelControls.Proofs.FileTrees.TreeNodes

/-!
# Backends on which a refusal changes nothing

A lawful backend may leave anything on a node that refuses a write.  The nodes of a bench and the
files of a tree do not: what they refuse did not happen.  The same holds of a store, for the
openings that were made: an opening that never was reads the file every time, and a refused saving
may bring another file to light.

## Strategy

Where refusals change nothing, what an attempt leaves is a function of whether it was accepted
(`tree_write`, `saved_save`).  Nothing is said about what is refused, and a backend may also have a
script of refusals (`Refusing`), so whatever is shown here is shown for refusals in every pattern.
Nodes are firm when the refusing ones are always the same.  A file tree is firm as well, because no
write of a file makes another file writable or keeps it from being written (`isOk_write_set_file`).
-/

namespace KernelControls

/-! ## Atomic nodes and stores -/

/-- Nodes on which a refused write changes nothing. -/
class AtomicNodes (World : Type) (Place : outParam Type) [DecidableEq Place]
    [NodeAccess (StateM World)] [LawfulNodes World Place] : Prop where
  write_refused : ∀ path text error (world : World),
    (perform (NodeAccess.write path text) world).1 = .error error →
    LawfulNodes.tree (perform (NodeAccess.write path text) world).2 = LawfulNodes.tree world

/-- A store in which a refused saving changes nothing that is seen by an opening that was made. -/
class AtomicStore (World : Type) [PreferenceAccess (StateM World)] [LawfulStore World] where
  /-- Whether an opening was made. -/
  isOpened : World → Opening → Prop
  save_refused : ∀ opening key value error world, isOpened world opening →
    (perform (PreferenceAccess.save opening key value) world).1 = .error error →
    LawfulStore.saved (perform (PreferenceAccess.save opening key value) world).2 opening =
      LawfulStore.saved world opening
  isOpened_saved? : ∀ opening key world,
    isOpened (perform (PreferenceAccess.saved? opening key) world).2 = isOpened world
  isOpened_save : ∀ opening key value world,
    isOpened (perform (PreferenceAccess.save opening key value) world).2 = isOpened world

/-- Atomic nodes and an atomic store, of which no opening comes or goes when nodes are used. -/
class AtomicBackend (World : Type) (Place : outParam Type) [DecidableEq Place]
    [NodeAccess (StateM World)] [PreferenceAccess (StateM World)] [LawfulBackend World Place]
    extends AtomicNodes World Place, AtomicStore World where
  isOpened_isPresent : ∀ path world,
    isOpened (perform (NodeAccess.isPresent path) world).2 = isOpened world
  isOpened_read : ∀ path world,
    isOpened (perform (NodeAccess.read path) world).2 = isOpened world
  isOpened_write : ∀ path text world,
    isOpened (perform (NodeAccess.write path text) world).2 = isOpened world

theorem AtomicNodes.tree_write {World Place : Type} [DecidableEq Place]
    [NodeAccess (StateM World)] [LawfulNodes World Place] [AtomicNodes World Place]
    (path text : String) (world : World) :
    let written := perform (NodeAccess.write path text) world
    LawfulNodes.tree written.2 =
      if written.1.isOk then (LawfulNodes.tree world).put path text
      else LawfulNodes.tree world := by
  intro written
  cases hresult : written.1 with
  | error error => exact write_refused path text error world hresult
  | ok done => exact LawfulNodes.write_accepted path text world hresult

theorem AtomicStore.saved_save {World : Type} [PreferenceAccess (StateM World)]
    [LawfulStore World] [AtomicStore World] {opening : Opening} {world : World}
    (hopened : isOpened world opening) (key : String) (value : Int64) :
    let saved := perform (PreferenceAccess.save opening key value) world
    LawfulStore.saved saved.2 opening =
      if saved.1.isOk then Function.update (LawfulStore.saved world opening) key (some value)
      else LawfulStore.saved world opening := by
  intro saved
  cases hresult : saved.1 with
  | error error => exact save_refused opening key value error world hopened hresult
  | ok done => exact LawfulStore.save_accepted opening key value world hresult

/-- No opening comes or goes while one only asks. -/
theorem AtomicBackend.undisturbed {World Place : Type} [DecidableEq Place]
    [NodeAccess (StateM World)] [PreferenceAccess (StateM World)] [LawfulBackend World Place]
    [AtomicBackend World Place] (opened : Opening → Prop) :
    Undisturbed fun world : World => AtomicStore.isOpened world = opened where
  isPresent path world hopened := (isOpened_isPresent path world).trans hopened
  read path world hopened := (isOpened_read path world).trans hopened
  saved? opening key world hopened :=
    (AtomicStore.isOpened_saved? opening key world).trans hopened

/-! ## Nodes of which the same ones always refuse -/

/-- Nodes of which a fixed set refuses writes, whether they are there or not. -/
class FirmNodes (World : Type) (Place : outParam Type) [DecidableEq Place]
    [NodeAccess (StateM World)] [LawfulNodes World Place] extends AtomicNodes World Place where
  /-- Whether the node of a path refuses writes. -/
  refuses : World → String → Bool
  isOk_write : ∀ path text world,
    (perform (NodeAccess.write path text) world).1.isOk = !refuses world path
  refuses_write : ∀ path text world,
    refuses (perform (NodeAccess.write path text) world).2 = refuses world

/-! ## Benches, file trees and preference files -/

namespace Bench

instance firm : FirmNodes Bench (List Path.Component) where
  write_refused path text error bench hrefused := by
    rcases bench.writeNode_cases path text with hsame | ⟨haccepted, -⟩
    · rw [show perform (NodeAccess.write path text) bench = _ from hsame]
    · rw [show (perform (NodeAccess.write path text) bench).1 = _ from haccepted] at hrefused
      cases hrefused
  refuses := Bench.refuses
  isOk_write path text bench := by
    show (bench.writeNode path text).1.isOk = _
    unfold writeNode
    cases bench.refuses path <;> rfl
  refuses_write path text bench := by
    show (bench.writeNode path text).2.refuses = _
    unfold writeNode
    split <;> rfl

instance atomic : AtomicBackend Bench (List Path.Component) where
  isOpened _ _ := True
  save_refused opening key value error bench _ hrefused := by
    replace hrefused : (bench.save key value).1 = .error error := hrefused
    show (bench.save key value).2.view.saved opening = _
    unfold save at hrefused ⊢
    split at hrefused
    · next hrefuses => rw [if_pos hrefuses]; rfl
    · cases hrefused
  isOpened_saved? _ _ _ := rfl
  isOpened_save _ _ _ _ := rfl
  isOpened_isPresent _ _ := rfl
  isOpened_read _ _ := rfl
  isOpened_write _ _ _ := rfl

end Bench

namespace FileTree

variable {tree : FileTree} {location parent place : Location} {path last : String}
  {content : ByteArray}

theorem name_of_enter (henter : tree.enter parent last = .ok (parent ++ [last])) :
    last ≠ "" ∧ last ≠ "." ∧ last ≠ ".." := by
  have hdirectory := directory_of_enter henter
  unfold enter at henter
  rw [hdirectory] at henter
  refine ⟨?_, ?_, ?_⟩
  · rintro rfl
    exact List.cons_ne_nil _ _ (List.self_eq_append_right.mp (Except.ok.inj henter))
  · rintro rfl
    exact List.cons_ne_nil _ _ (List.self_eq_append_right.mp (Except.ok.inj henter))
  · -- A step back would make the location shorter.
    rintro rfl
    have hlength := congrArg List.length (Except.ok.inj henter)
    rw [List.length_dropLast, List.length_append, List.length_singleton] at hlength
    omega

/-- What keeps a path from being written is its ending, a walk that stops before the end, or a
directory that stands there. -/
theorem isOk_write_iff : (tree.write path content).isOk = true ↔
    ∃ location last, tree.placeOf path = some location ∧
      tree.entryAt? location ≠ some .directory ∧
      (Path.pieces path).getLast? = some last ∧ last ≠ "" ∧ last ≠ "." ∧ last ≠ ".." := by
  constructor
  · intro haccepted
    cases hwrite : tree.write path content with
    | error cause => rw [hwrite] at haccepted; cases haccepted
    | ok changed =>
        -- An accepted write names its place and takes the last step as a name.
        obtain ⟨first, parent, before, last, empties, -, -, henter, hplace, hpieces, -, hnone⟩ :=
          exists_of_target (target_of_write hwrite)
        rw [hplace] at henter
        refine ⟨tree.lead path, last, placeOf_of_write hwrite, (write_eq_ok hwrite).2.1, ?_,
          name_of_enter henter⟩
        rw [hpieces, hnone rfl, List.getLast?_concat]
  · rintro ⟨location, last, hplace, hfree, hlast, hsome, hhere, hup⟩
    obtain ⟨first, hstart, hwalk⟩ := placeOf_eq_some.mp hplace
    obtain ⟨before, hpieces⟩ := List.getLast?_eq_some_iff.mp hlast
    unfold write
    rw [target_of_walk hstart hwalk hpieces ⟨hsome, hhere, hup⟩]
    dsimp only [Bind.bind, Except.bind]
    split
    · next hdirectory => exact absurd hdirectory hfree
    · rfl

/-- Where a file is put, no other file becomes writable or stops being so. -/
theorem isOk_write_set_file (hroot : place ≠ []) (hplace : tree.entryAt? place ≠ some .directory)
    (held : ByteArray) : ((tree.set place (.file held)).write path content).isOk =
      (tree.write path content).isOk := by
  rw [Bool.eq_iff_iff, isOk_write_iff, isOk_write_iff, placeOf_set_file hroot hplace]
  refine exists_congr fun location => exists_congr fun last => and_congr_right fun _ =>
    and_congr_left fun _ => ?_
  rw [entryAt?_set _ _ _ _ hroot]
  split
  · -- The file that was put is no directory, and none was there before.
    next hsame => exact iff_of_true (by simp) (hsame ▸ hplace)
  · exact Iff.rfl

end FileTree

namespace TreeNodes

variable (nodes : TreeNodes) (path text : String)

theorem isSome_refusal? (content : ByteArray) :
    (nodes.refusal? path).isSome = !(nodes.files.write (nodes.file path) content).isOk := by
  have hwrite := nodes.files.write_of_refusal (nodes.file path) content
  unfold refusal?
  rw [Option.isSome_map]
  cases hrefusal : nodes.files.writeRefusal? (nodes.file path) with
  | some cause =>
      rw [hrefusal] at hwrite
      rw [show nodes.files.write (nodes.file path) content = _ from hwrite]
      rfl
  | none =>
      rw [hrefusal] at hwrite
      obtain ⟨changed, hchanged⟩ := hwrite
      rw [hchanged]
      rfl

instance firm : FirmNodes TreeNodes (Option Location) where
  write_refused path text error nodes hrefused := by
    rcases nodes.write_cases path text with ⟨other, -, hsame⟩ | ⟨-, changed, -, hrun⟩
    · rw [hsame]
    · rw [hrun] at hrefused
      cases hrefused
  refuses nodes path := (nodes.refusal? path).isSome
  isOk_write path text nodes := by
    rcases nodes.write_cases path text with ⟨error, hwhy, hrefused⟩ | ⟨hnone, changed, -, hrun⟩
    · rw [hwhy, hrefused]
      rfl
    · rw [hnone, hrun]
      rfl
  refuses_write path text nodes := by
    funext other
    show ((perform (NodeAccess.write path text) nodes).2.refusal? other).isSome =
      (nodes.refusal? other).isSome
    rcases nodes.write_cases path text with ⟨error, -, hrefused⟩ | ⟨-, changed, hwrite, hrun⟩
    · rw [hrefused]
    · -- What is refused does not depend on the content, so any content will do.
      obtain ⟨hroot, hfree, rfl⟩ := FileTree.write_eq_ok hwrite
      rw [hrun, isSome_refusal? _ _ .empty, isSome_refusal? _ _ .empty]
      exact congrArg (!·) (FileTree.isOk_write_set_file hroot hfree _)

end TreeNodes

namespace FileStore

variable {Files : Type} [FileSystem (StateM Files)] [LawfulFiles Files]

instance atomic : AtomicStore (FileStore Files) where
  isOpened store opening := opening < store.site.openings.length
  save_refused opening key value error store hopened hrefused := by
    funext found
    show ((store.run (Site.save opening key value)).2.preferences opening).get? found =
      (store.preferences opening).get? found
    replace hrefused : (store.run (Site.save opening key value)).1 = .error error := hrefused
    have hrun := store.run_save opening key value
    dsimp only at hrun
    split at hrun
    · rw [hrun]
      dsimp only
      rw [preferences_refused hopened]
    · rw [hrun] at hrefused
      cases hrefused
  isOpened_saved? opening key store := by
    funext other
    show (other < (store.run (PreferenceAccess.saved? opening key)).2.site.openings.length) = _
    rw [run_saved?, openings_looked]
  isOpened_save opening key value store := by
    funext other
    show (other < (store.run (Site.save opening key value)).2.site.openings.length) = _
    have hrun := store.run_save opening key value
    dsimp only at hrun
    split at hrun
    · rw [hrun]
      dsimp only
      rw [openings_looked]
    · rw [hrun]
      show (other < ((store.looked opening).site.openings.set opening _).length) = _
      rw [List.length_set, openings_looked]

end FileStore

namespace Paired

variable {Nodes Store Place : Type} [DecidableEq Place] [NodeAccess (StateM Nodes)]
  [PreferenceAccess (StateM Store)] [LawfulNodes Nodes Place] [LawfulStore Store]

instance atomicNodes [AtomicNodes Nodes Place] : AtomicNodes (Paired Nodes Store) Place where
  write_refused path text error pair := AtomicNodes.write_refused path text error pair.nodes

instance firm [FirmNodes Nodes Place] : FirmNodes (Paired Nodes Store) Place where
  refuses pair := FirmNodes.refuses pair.nodes
  isOk_write path text pair := FirmNodes.isOk_write path text pair.nodes
  refuses_write path text pair := FirmNodes.refuses_write path text pair.nodes

instance atomic [AtomicNodes Nodes Place] [AtomicStore Store] :
    AtomicBackend (Paired Nodes Store) Place where
  isOpened pair := AtomicStore.isOpened pair.store
  save_refused opening key value error pair :=
    AtomicStore.save_refused opening key value error pair.store
  isOpened_saved? opening key pair := AtomicStore.isOpened_saved? opening key pair.store
  isOpened_save opening key value pair := AtomicStore.isOpened_save opening key value pair.store
  isOpened_isPresent _ _ := rfl
  isOpened_read _ _ := rfl
  isOpened_write _ _ _ := rfl

end Paired

/-! ## Refusals in any pattern -/

/-- A backend with a script of refusals.  Each attempt to write or to save takes one entry, and
where it says nothing the backend below is asked. -/
structure Refusing (World : Type) where
  script : List Bool
  world : World

namespace Refusing

variable {World Value : Type}

/-- Whether the next attempt is refused whatever it is. -/
def refusesNext (refusing : Refusing World) : Bool :=
  refusing.script.head?.getD false

/-- Attempt something below, unless the script refuses it. -/
def attempt {Reason : Type} (reason : Reason) (action : StateM World (Except Reason Unit)) :
    StateM (Refusing World) (Except Reason Unit) := fun refusing =>
  if refusing.refusesNext then (.error reason, ⟨refusing.script.tail, refusing.world⟩)
  else
    let asked := perform action refusing.world
    (asked.1, ⟨refusing.script.tail, asked.2⟩)

/-- Ask the backend below. -/
def ask (action : StateM World Value) : StateM (Refusing World) Value := fun refusing =>
  let asked := perform action refusing.world
  (asked.1, { refusing with world := asked.2 })

instance [NodeAccess (StateM World)] : NodeAccess (StateM (Refusing World)) where
  isPresent path := ask (NodeAccess.isPresent path)
  read path := ask (NodeAccess.read path)
  write path text := attempt (.unwritable path .permissionDenied) (NodeAccess.write path text)

instance [PreferenceAccess (StateM World)] : PreferenceAccess (StateM (Refusing World)) where
  saved? opening key := ask (PreferenceAccess.saved? opening key)
  save opening key value :=
    attempt (.io .permissionDenied) (PreferenceAccess.save opening key value)

/-- An attempt is refused above and nothing happens below, or it is made below. -/
theorem attempt_cases {Reason : Type} (reason : Reason)
    (action : StateM World (Except Reason Unit)) (refusing : Refusing World) :
    ((perform (attempt reason action) refusing).1 = .error reason ∧
      (perform (attempt reason action) refusing).2.world = refusing.world) ∨
    ((perform (attempt reason action) refusing).1 = (perform action refusing.world).1 ∧
      (perform (attempt reason action) refusing).2.world = (perform action refusing.world).2) := by
  unfold perform attempt
  split
  · exact .inl ⟨rfl, rfl⟩
  · exact .inr ⟨rfl, rfl⟩

theorem write_cases [NodeAccess (StateM World)] (path text : String)
    (refusing : Refusing World) :
    let written := perform (NodeAccess.write path text) refusing
    let below := perform (NodeAccess.write path text) refusing.world
    ((∃ error, written.1 = .error error) ∧ written.2.world = refusing.world) ∨
      (written.1 = below.1 ∧ written.2.world = below.2) :=
  (attempt_cases _ _ refusing).imp_left fun ⟨hrefused, hworld⟩ => ⟨⟨_, hrefused⟩, hworld⟩

theorem save_cases [PreferenceAccess (StateM World)] (opening : Opening) (key : String)
    (value : Int64) (refusing : Refusing World) :
    let saved := perform (PreferenceAccess.save opening key value) refusing
    let below := perform (PreferenceAccess.save opening key value) refusing.world
    ((∃ error, saved.1 = .error error) ∧ saved.2.world = refusing.world) ∨
      (saved.1 = below.1 ∧ saved.2.world = below.2) :=
  (attempt_cases _ _ refusing).imp_left fun ⟨hrefused, hworld⟩ => ⟨⟨_, hrefused⟩, hworld⟩

variable {Place : Type} [DecidableEq Place] [NodeAccess (StateM World)]
  [PreferenceAccess (StateM World)] [LawfulBackend World Place]

instance lawful : LawfulBackend (Refusing World) Place where
  tree refusing := LawfulNodes.tree refusing.world
  isPresent_answer path refusing := LawfulNodes.isPresent_answer path refusing.world
  isPresent_tree path refusing := LawfulNodes.isPresent_tree path refusing.world
  read_answer path text refusing := LawfulNodes.read_answer path text refusing.world
  read_tree path refusing := LawfulNodes.read_tree path refusing.world
  write_accepted path text refusing haccepted := by
    rcases refusing.write_cases path text with ⟨⟨error, hrefused⟩, -⟩ | ⟨hanswer, hworld⟩
    · cases hrefused.symm.trans haccepted
    · rw [hworld]
      exact LawfulNodes.write_accepted path text refusing.world (hanswer.symm.trans haccepted)
  write_outside path text refusing := by
    rcases refusing.write_cases path text with ⟨-, hworld⟩ | ⟨-, hworld⟩
    · rw [hworld]
      exact .refl _ _
    · rw [hworld]
      exact LawfulNodes.write_outside path text refusing.world
  isPresent_saved path refusing := LawfulBackend.isPresent_saved path refusing.world
  read_saved path refusing := LawfulBackend.read_saved path refusing.world
  write_saved path text refusing := by
    rcases refusing.write_cases path text with ⟨-, hworld⟩ | ⟨-, hworld⟩
    · rw [hworld]
    · rw [hworld]
      exact LawfulBackend.write_saved path text refusing.world
  saved refusing := LawfulStore.saved refusing.world
  saved_answer opening key refusing := LawfulStore.saved_answer opening key refusing.world
  saved_saved opening key refusing := LawfulStore.saved_saved opening key refusing.world
  save_accepted opening key value refusing haccepted := by
    rcases refusing.save_cases opening key value with ⟨⟨error, hrefused⟩, -⟩ | ⟨hanswer, hworld⟩
    · cases hrefused.symm.trans haccepted
    · rw [hworld]
      exact LawfulStore.save_accepted opening key value refusing.world
        (hanswer.symm.trans haccepted)
  saved_tree opening key refusing := LawfulBackend.saved_tree opening key refusing.world
  save_tree opening key value refusing := by
    rcases refusing.save_cases opening key value with ⟨-, hworld⟩ | ⟨-, hworld⟩
    · rw [hworld]
    · rw [hworld]
      exact LawfulBackend.save_tree opening key value refusing.world

/-- Whatever the script refuses, a refusal changes nothing. -/
instance atomic [AtomicBackend World Place] : AtomicBackend (Refusing World) Place where
  write_refused path text error refusing hrefused := by
    show LawfulNodes.tree (perform (NodeAccess.write path text) refusing).2.world = _
    rcases refusing.write_cases path text with ⟨-, hworld⟩ | ⟨hanswer, hworld⟩
    · rw [hworld]
      rfl
    · rw [hworld]
      exact AtomicNodes.write_refused path text error refusing.world (hanswer.symm.trans hrefused)
  isOpened refusing := AtomicStore.isOpened refusing.world
  save_refused opening key value error refusing hopened hrefused := by
    show LawfulStore.saved (perform (PreferenceAccess.save opening key value) refusing).2.world
      opening = _
    rcases refusing.save_cases opening key value with ⟨-, hworld⟩ | ⟨hanswer, hworld⟩
    · rw [hworld]
      rfl
    · rw [hworld]
      exact AtomicStore.save_refused opening key value error refusing.world hopened
        (hanswer.symm.trans hrefused)
  isOpened_saved? opening key refusing := AtomicStore.isOpened_saved? opening key refusing.world
  isOpened_save opening key value refusing := by
    rcases refusing.save_cases opening key value with ⟨-, hworld⟩ | ⟨-, hworld⟩
    · rw [hworld]
    · rw [hworld]
      exact AtomicStore.isOpened_save opening key value refusing.world
  isOpened_isPresent path refusing := AtomicBackend.isOpened_isPresent path refusing.world
  isOpened_read path refusing := AtomicBackend.isOpened_read path refusing.world
  isOpened_write path text refusing := by
    rcases refusing.write_cases path text with ⟨-, hworld⟩ | ⟨-, hworld⟩
    · rw [hworld]
    · rw [hworld]
      exact AtomicBackend.isOpened_write path text refusing.world

end Refusing

end KernelControls
