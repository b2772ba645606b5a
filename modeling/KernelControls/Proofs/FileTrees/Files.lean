import KernelControls.FileSystem
import KernelControls.Proofs.Engine.Operations

/-!
# Replaced files are read back

A preference file is put in place as a whole.  Once that succeeded, the path leads to a file with
the new content.

## Strategy

The place of a replaced file is never a directory, so no walk that succeeded went on from there,
and the walk of the same path finds every directory it needs where it was.  `LawfulFiles` says
of a file system what the store of preferences needs: looking changes nothing, and what was put
in place is read back.  A file system may refuse whenever it likes.
-/

namespace KernelControls

/-! ## Walks around a changed place -/

namespace FileTree

variable {tree : FileTree} {location next place : Location} {entry : Entry}

theorem directory_of_enter {piece : String} (henter : tree.enter location piece = .ok next) :
    tree.entryAt? location = some .directory := by
  unfold enter at henter
  split at henter
  · cases henter
  · cases henter
  · next hdirectory => exact hdirectory

theorem walk_cons {piece : String} {rest : List String}
    (henter : tree.enter location piece = .ok next) :
    tree.walk location (piece :: rest) = tree.walk next rest := by
  rw [walk, henter]

theorem walk_cons_eq_ok {piece : String} {rest : List String} :
    tree.walk location (piece :: rest) = .ok next ↔
      ∃ middle, tree.enter location piece = .ok middle ∧ tree.walk middle rest = .ok next := by
  rw [walk]
  cases tree.enter location piece with
  | error cause => simp
  | ok middle => simp

section Kept

variable {before after : FileTree}
  (hkept : ∀ location, before.entryAt? location = some .directory →
    after.entryAt? location = some .directory)
include hkept

/-- Where no directory is lost, no step that was possible is stopped. -/
theorem enter_of_directories {piece : String} (henter : before.enter location piece = .ok next) :
    after.enter location piece = .ok next := by
  have hdirectory := directory_of_enter henter
  unfold enter at henter ⊢
  rw [hkept location hdirectory]
  rwa [hdirectory] at henter

theorem walk_of_directories {pieces : List String}
    (hwalk : before.walk location pieces = .ok next) : after.walk location pieces = .ok next := by
  induction pieces generalizing location with
  | nil => exact hwalk
  | cons piece rest ih =>
      obtain ⟨middle, henter, hrest⟩ := walk_cons_eq_ok.mp hwalk
      exact walk_cons_eq_ok.mpr ⟨middle, enter_of_directories hkept henter, ih hrest⟩

end Kept

/-- Changing a place that is no directory loses none. -/
theorem directory_set (hroot : place ≠ []) (hplace : tree.entryAt? place ≠ some .directory)
    (location : Location) (hdirectory : tree.entryAt? location = some .directory) :
    (tree.set place entry).entryAt? location = some .directory := by
  have hother : location ≠ place := fun hsame => hplace (hsame ▸ hdirectory)
  rw [entryAt?_set _ _ _ _ hroot, if_neg hother]
  exact hdirectory

theorem enter_set_of_ne (hroot : place ≠ []) (hother : location ≠ place) (piece : String) :
    (tree.set place entry).enter location piece = tree.enter location piece := by
  unfold enter
  rw [entryAt?_set _ _ _ _ hroot, if_neg hother]

theorem enter_set {piece : String} (hroot : place ≠ [])
    (hplace : tree.entryAt? place ≠ some .directory)
    (henter : tree.enter location piece = .ok next) :
    (tree.set place entry).enter location piece = .ok next :=
  enter_of_directories (directory_set hroot hplace) henter

theorem walk_set {pieces : List String} (hroot : place ≠ [])
    (hplace : tree.entryAt? place ≠ some .directory)
    (hwalk : tree.walk location pieces = .ok next) :
    (tree.set place entry).walk location pieces = .ok next :=
  walk_of_directories (directory_set hroot hplace) hwalk

theorem walk_append {before after : List String} (hwalk : tree.walk location before = .ok next) :
    tree.walk location (before ++ after) = tree.walk next after := by
  induction before generalizing location with
  | nil =>
      obtain rfl : location = next := Except.ok.inj hwalk
      rfl
  | cons piece rest ih =>
      obtain ⟨middle, henter, hrest⟩ := walk_cons_eq_ok.mp hwalk
      rw [List.cons_append, walk_cons henter]
      exact ih hrest

theorem walk_append_eq_ok {before after : List String} :
    tree.walk location (before ++ after) = .ok next ↔
      ∃ middle, tree.walk location before = .ok middle ∧ tree.walk middle after = .ok next := by
  constructor
  · intro hwalk
    induction before generalizing location with
    | nil => exact ⟨location, rfl, hwalk⟩
    | cons piece rest ih =>
        obtain ⟨reached, henter, hrest⟩ := walk_cons_eq_ok.mp hwalk
        obtain ⟨middle, hbefore, hafter⟩ := ih hrest
        exact ⟨middle, walk_cons_eq_ok.mpr ⟨reached, henter, hbefore⟩, hafter⟩
  · rintro ⟨middle, hbefore, hafter⟩
    rw [walk_append hbefore]
    exact hafter

/-! ## Where something is put -/

theorem enter_name {piece : String} (hname : piece ≠ "" ∧ piece ≠ "." ∧ piece ≠ "..")
    (henter : tree.enter location piece = .ok next) : next = location ++ [piece] := by
  have hdirectory := directory_of_enter henter
  obtain ⟨hempty, hhere, hup⟩ := hname
  unfold enter at henter
  simp only [hdirectory, hempty, hhere, hup, decide_false, Bool.or_false, Bool.false_eq_true,
    if_false] at henter
  split at henter
  · cases henter
  · exact (Except.ok.inj henter).symm

/-- Where the last piece is not empty, no empty piece is dropped from the end. -/
theorem reverse_dropWhile_reverse {pieces : List String} (hlast : pieces.getLast? ≠ some "") :
    (pieces.reverse.dropWhile fun piece => piece = "").reverse = pieces := by
  rw [← List.head?_reverse] at hlast
  cases hreverse : pieces.reverse with
  | nil => rw [List.reverse_eq_nil_iff.mp hreverse]; rfl
  | cons last rest =>
      rw [hreverse, List.head?_cons, ne_eq, Option.some.injEq] at hlast
      rw [List.dropWhile_cons_of_neg (by simpa using hlast), ← hreverse, List.reverse_reverse]

/-- Where the empty pieces at the end are dropped, nothing else is. -/
theorem exists_empties (pieces : List String) : ∃ empties, (∀ piece ∈ empties, piece = "") ∧
    pieces = (pieces.reverse.dropWhile fun piece => piece = "").reverse ++ empties := by
  refine ⟨(pieces.reverse.takeWhile fun piece => piece = "").reverse, fun piece hpiece => ?_, ?_⟩
  · have hall := List.all_eq_true.mp List.all_takeWhile piece (List.mem_reverse.mp hpiece)
    exact of_decide_eq_true hall
  · rw [← List.reverse_append, List.takeWhile_append_dropWhile, List.reverse_reverse]

/-- The place of a path is a name below a directory.  The walk to it leaves out the empty pieces
that the path may end with. -/
theorem exists_of_target {path : String} {slash : Bool}
    (htarget : tree.target path = .ok (some place, slash)) :
    ∃ first parent before last empties, tree.start path = .ok first ∧
      tree.walk first before = .ok parent ∧ tree.enter parent last = .ok place ∧
      place = parent ++ [last] ∧ Path.pieces path = before ++ last :: empties ∧
      (∀ piece ∈ empties, piece = "") ∧ (slash = false → empties = []) := by
  unfold target at htarget
  cases hstart : tree.start path with
  | error cause => rw [hstart] at htarget; cases htarget
  | ok first =>
      rw [hstart] at htarget
      dsimp only [Bind.bind, Except.bind] at htarget
      split at htarget
      · cases htarget
      next last hlast =>
      split at htarget
      · cases htarget
      next parent hparent =>
      split at htarget
      · cases htarget
      next reached hreached =>
      obtain ⟨hplace, hslash⟩ := Prod.mk.inj (Except.ok.inj htarget)
      split at hplace
      · cases hplace
      next hspecial =>
      obtain rfl : reached = place := Option.some.inj hplace
      -- What is left of the end is no empty piece, and a dot or two would create nothing.
      have hname : last ≠ "" ∧ last ≠ "." ∧ last ≠ ".." := by
        refine ⟨?_, ?_, ?_⟩
        · have hkept := List.head?_dropWhile_not (fun piece => decide (piece = ""))
            (Path.pieces path).reverse
          rw [List.getLast?_reverse] at hlast
          rw [hlast] at hkept
          exact of_decide_eq_false hkept
        · rintro rfl
          exact hspecial rfl
        · rintro rfl
          exact hspecial rfl
      obtain ⟨before, hbefore⟩ := List.getLast?_eq_some_iff.mp hlast
      rw [hbefore, List.dropLast_concat] at hparent
      obtain ⟨empties, hempties, hpieces⟩ := exists_empties (Path.pieces path)
      refine ⟨first, parent, before, last, empties, rfl, hparent, hreached,
        enter_name hname hreached, ?_, hempties, ?_⟩
      · rw [hpieces, hbefore, List.append_assoc, List.singleton_append]
      · rintro rfl
        rw [reverse_dropWhile_reverse (by simpa using hslash)] at hpieces
        exact List.self_eq_append_right.mp hpieces

theorem directory_of_target {path : String} {slash : Bool}
    (htarget : tree.target path = .ok (some place, slash)) :
    ∃ parent last, tree.entryAt? parent = some .directory ∧ place = parent ++ [last] := by
  obtain ⟨-, parent, -, last, -, -, -, henter, hplace, -⟩ := exists_of_target htarget
  exact ⟨parent, last, directory_of_enter henter, hplace⟩

theorem ne_nil_of_target {path : String} {slash : Bool}
    (htarget : tree.target path = .ok (some place, slash)) : place ≠ [] := by
  obtain ⟨parent, last, -, rfl⟩ := directory_of_target htarget
  exact List.concat_ne_nil _ _

/-- A directory is made where a path would create something and nothing stands. -/
theorem makeDirectory_eq_ok {made : FileTree} {path : String}
    (hmade : tree.makeDirectory path = .ok made) :
    ∃ place slash, tree.target path = .ok (some place, slash) ∧ tree.entryAt? place = none ∧
      made = tree.set place .directory := by
  unfold makeDirectory at hmade
  rcases htarget : tree.target path with cause | ⟨_ | place, slash⟩
  · rw [htarget] at hmade; cases hmade
  · rw [htarget] at hmade; cases hmade
  rw [htarget] at hmade
  dsimp only [Bind.bind, Except.bind] at hmade
  split at hmade
  · next hfree => exact ⟨place, slash, rfl, hfree, (Except.ok.inj hmade).symm⟩
  · cases hmade

/-- A file is put in place where a path would create one and no directory stands. -/
theorem replace_eq_ok {replaced : FileTree} {path : String} {content : ByteArray}
    (hreplace : tree.replace path content = .ok replaced) :
    ∃ place, tree.target path = .ok (some place, false) ∧
      tree.entryAt? place ≠ some .directory ∧ replaced = tree.set place (.file content) := by
  unfold replace at hreplace
  split at hreplace
  · cases hreplace
  · cases hreplace
  · next place htarget =>
      split at hreplace
      · cases hreplace
      · next hplace => exact ⟨place, htarget, hplace, (Except.ok.inj hreplace).symm⟩
  · cases hreplace
  · cases hreplace

/-- A file that is put at the place of a path is what the path leads to. -/
theorem find_set_of_target {path : String} (htarget : tree.target path = .ok (some place, false))
    (hplace : tree.entryAt? place ≠ some .directory) :
    (tree.set place entry).find path = .ok (place, entry) := by
  obtain ⟨first, parent, before, last, empties, hstart, hwalk, henter, -, hpieces, -, hnone⟩ :=
    exists_of_target htarget
  have hroot := ne_nil_of_target htarget
  have hwalked : (tree.set place entry).walk first (Path.pieces path) = .ok place := by
    rw [hpieces, hnone rfl, walk_append (walk_set hroot hplace hwalk),
      walk_cons (enter_set hroot hplace henter)]
    rfl
  have hstarted : (tree.set place entry).start path = .ok first := hstart
  unfold find
  rw [hstarted]
  dsimp only [Bind.bind, Except.bind]
  rw [hwalked]
  dsimp only
  rw [entryAt?_set tree place place entry hroot, if_pos rfl]
  rfl

theorem find_of_replace {changed : FileTree} {path : String} {content : ByteArray}
    (hreplace : tree.replace path content = .ok changed) :
    ∃ place, changed.find path = .ok (place, .file content) := by
  obtain ⟨place, htarget, hfree, rfl⟩ := replace_eq_ok hreplace
  exact ⟨place, find_set_of_target htarget hfree⟩

end FileTree

/-! ## Lawful file systems -/

@[simp] theorem fromUTF8?_toUTF8 (text : String) : String.fromUTF8? text.toUTF8 = some text := by
  unfold String.fromUTF8?
  rw [String.toUTF8_eq_toByteArray, dif_pos text.isValidUTF8]
  rfl

/-- Files that keep their word. -/
class LawfulFiles (World : Type) [FileSystem (StateM World)] where
  isPresent_world : ∀ path (world : World),
    (perform (FileSystem.isPresent path) world).2 = world
  read_world : ∀ path (world : World), (perform (FileSystem.read path) world).2 = world
  /-- A file that was put in its place is there. -/
  isPresent_replaced : ∀ directory path text (world : World),
    (perform (FileSystem.replace directory path text) world).1 = .ok () →
    (perform (FileSystem.isPresent path)
      (perform (FileSystem.replace directory path text) world).2).1 = true
  /-- A file that was put in its place is read back. -/
  read_replaced : ∀ directory path text (world : World),
    (perform (FileSystem.replace directory path text) world).1 = .ok () →
    (perform (FileSystem.read path)
      (perform (FileSystem.replace directory path text) world).2).1 = .ok text.toUTF8

namespace LawfulFiles

variable {World : Type} [FileSystem (StateM World)] [LawfulFiles World] (path : String)
  (world : World)

theorem readText_run : perform (FileSystem.readText path) world =
    ((perform (FileSystem.read path) world).1.bind fun content =>
      match String.fromUTF8? content with
      | some text => .ok text
      | none => .error .notUtf8, world) := by
  unfold FileSystem.readText
  rw [perform_bind, read_world]
  cases (perform (FileSystem.read path) world).1 with
  | error cause => rfl
  | ok content =>
      simp only [Except.bind]
      cases String.fromUTF8? content <;> rfl

theorem readText_world : (perform (FileSystem.readText path) world).2 = world := by
  rw [readText_run]

theorem readText_replaced {directory text : String}
    (haccepted : (perform (FileSystem.replace directory path text) world).1 = .ok ()) :
    (perform (FileSystem.readText path)
      (perform (FileSystem.replace directory path text) world).2).1 = .ok text := by
  rw [readText_run, read_replaced directory path text world haccepted]
  simp only [Except.bind, fromUTF8?_toUTF8]

end LawfulFiles

namespace FileTree

theorem find_of_replaceFrom {tree : FileTree} {directory path text : String}
    (haccepted : (tree.replaceFrom directory path text).1 = .ok ()) :
    ∃ place, (tree.replaceFrom directory path text).2.find path =
      .ok (place, .file text.toUTF8) := by
  unfold replaceFrom at haccepted ⊢
  split at haccepted
  · cases haccepted
  · cases haccepted
  · split at haccepted
    · cases haccepted
    · next hshort =>
        rw [if_neg hshort]
        split at haccepted
        · next changed hreplace => exact find_of_replace hreplace
        · cases haccepted

instance : LawfulFiles FileTree where
  isPresent_world _ _ := rfl
  read_world _ _ := rfl
  isPresent_replaced directory path text tree haccepted := by
    obtain ⟨place, hfind⟩ := find_of_replaceFrom haccepted
    show ((tree.replaceFrom directory path text).2.find path).isOk = true
    rw [hfind]
    rfl
  read_replaced directory path text tree haccepted := by
    obtain ⟨place, hfind⟩ := find_of_replaceFrom haccepted
    show (tree.replaceFrom directory path text).2.read path = _
    unfold read
    rw [hfind]
    rfl

end FileTree

end KernelControls
