import KernelControls.Proofs.Stores.SparedFiles

/-!
# What the shape of a tree decides

Where a path leads, and whether something can be written or made there, does not depend on what the
files of a tree hold.  It depends on the shape of the tree: where it has directories and where it
has files.

## Strategy

A step of a walk looks at an entry only to tell a directory from a file (`enter_eq`), and so does
every operation at its end.  Hence operations go alike in trees of one shape, and what they lead to
is of one shape again.
-/

namespace KernelControls

/-- Whether an entry is a directory. -/
def Entry.isDirectory : Entry → Bool
  | .file _ => false
  | .directory => true

namespace FileTree

/-- Trees with directories at the same locations, and with files at the same locations. -/
structure SameShape (tree other : FileTree) : Prop where
  workingDirectory : other.workingDirectory = tree.workingDirectory
  entries : ∀ location, (other.entryAt? location).map Entry.isDirectory =
    (tree.entryAt? location).map Entry.isDirectory

/-- Results of a change in two trees: a refusal for the same cause, or trees of one shape. -/
inductive Alike : Except OsError FileTree → Except OsError FileTree → Prop
  | refused (cause : OsError) : Alike (.error cause) (.error cause)
  | changed {tree other : FileTree} (same : SameShape tree other) : Alike (.ok tree) (.ok other)

variable {tree other : FileTree} {location place : Location} {path : String}

theorem map_isDirectory_eq_true {found : Option Entry} :
    found.map Entry.isDirectory = some true ↔ found = some .directory := by
  rcases found with _ | ⟨content | _⟩ <;> simp [Entry.isDirectory]

theorem map_isDirectory_eq_false {found : Option Entry} :
    found.map Entry.isDirectory = some false ↔ ∃ content, found = some (.file content) := by
  rcases found with _ | ⟨content | _⟩ <;> simp [Entry.isDirectory]

/-- A step of a walk sees no more of an entry than whether it is a directory. -/
theorem enter_eq (tree : FileTree) (location : Location) (piece : String) :
    tree.enter location piece =
      match (tree.entryAt? location).map Entry.isDirectory with
      | none => .error .noEntry
      | some false => .error .notDirectory
      | some true =>
        if piece = "" || piece = "." then .ok location
        else if piece = ".." then .ok location.dropLast
        else if nameLimit < piece.utf8ByteSize then .error .nameTooLong
        else .ok (location ++ [piece]) := by
  unfold enter
  rcases tree.entryAt? location with _ | ⟨content | _⟩ <;> rfl

namespace SameShape

theorem refl (tree : FileTree) : SameShape tree tree :=
  ⟨rfl, fun _ => rfl⟩

theorem set_file {old new : ByteArray} (hroot : place ≠ [])
    (hfile : tree.entryAt? place = some (.file old)) :
    SameShape tree (tree.set place (.file new)) where
  workingDirectory := rfl
  entries location := by
    rw [entryAt?_set _ _ _ _ hroot]
    by_cases hhere : location = place
    · rw [if_pos hhere, hhere, hfile]
      rfl
    · rw [if_neg hhere]

variable (same : SameShape tree other)
include same

/-- What is put in the same place of both trees leaves them of one shape. -/
theorem set {entry entry' : Entry} (hroot : place ≠ [])
    (hentry : entry'.isDirectory = entry.isDirectory) :
    SameShape (tree.set place entry) (other.set place entry') where
  workingDirectory := same.workingDirectory
  entries location := by
    rw [entryAt?_set _ _ _ _ hroot, entryAt?_set _ _ _ _ hroot]
    by_cases hhere : location = place
    · rw [if_pos hhere, if_pos hhere, Option.map_some, Option.map_some, hentry]
    · rw [if_neg hhere, if_neg hhere]
      exact same.entries location

theorem directory_iff :
    other.entryAt? location = some .directory ↔ tree.entryAt? location = some .directory := by
  rw [← map_isDirectory_eq_true, same.entries, map_isDirectory_eq_true]

theorem none_iff : other.entryAt? location = none ↔ tree.entryAt? location = none := by
  rw [← Option.map_eq_none_iff (f := Entry.isDirectory), same.entries, Option.map_eq_none_iff]

/-! ## Walks -/

theorem enter (location : Location) (piece : String) :
    other.enter location piece = tree.enter location piece := by
  rw [enter_eq, enter_eq, same.entries]

theorem walk (location : Location) (pieces : List String) :
    other.walk location pieces = tree.walk location pieces := by
  induction pieces generalizing location with
  | nil => rfl
  | cons piece rest ih =>
      unfold FileTree.walk
      rw [same.enter]
      cases tree.enter location piece with
      | error cause => rfl
      | ok next => exact ih next

theorem start (path : String) : other.start path = tree.start path := by
  unfold FileTree.start
  rw [same.workingDirectory]

theorem lead (path : String) : other.lead path = tree.lead path := by
  unfold FileTree.lead
  rw [same.workingDirectory]

theorem target (path : String) : other.target path = tree.target path := by
  unfold FileTree.target
  simp only [same.start, same.walk, same.enter]

theorem isDirectory (path : String) : other.isDirectory path = tree.isDirectory path := by
  unfold FileTree.isDirectory find
  rw [same.start]
  cases tree.start path with
  | error cause => rfl
  | ok first =>
      simp only [Bind.bind, Except.bind, same.walk]
      cases tree.walk first (Path.pieces path) with
      | error cause => rfl
      | ok location =>
          dsimp only
          have hentry := same.entries location
          rcases hfirst : tree.entryAt? location with _ | ⟨content | _⟩
          · rw [same.none_iff.mpr hfirst]
          · rw [hfirst] at hentry
            obtain ⟨content, hsecond⟩ := map_isDirectory_eq_false.mp hentry
            rw [hsecond]
            rfl
          · rw [same.directory_iff.mpr hfirst]

theorem isPresent (path : String) : other.isPresent path = tree.isPresent path := by
  unfold FileTree.isPresent find
  rw [same.start]
  cases tree.start path with
  | error cause => rfl
  | ok first =>
      simp only [Bind.bind, Except.bind, same.walk]
      cases tree.walk first (Path.pieces path) with
      | error cause => rfl
      | ok location =>
          dsimp only
          cases hfirst : tree.entryAt? location with
          | none => rw [same.none_iff.mpr hfirst]
          | some entry =>
              have hother : other.entryAt? location ≠ none := fun h => by
                rw [same.none_iff.mp h] at hfirst
                cases hfirst
              obtain ⟨entry', hsecond⟩ := Option.ne_none_iff_exists'.mp hother
              rw [hsecond]
              rfl

/-! ## Changes -/

theorem write (path : String) (content content' : ByteArray) :
    Alike (tree.write path content) (other.write path content') := by
  unfold FileTree.write
  rw [same.target]
  rcases htarget : tree.target path with cause | ⟨_ | place, _ | _⟩
  case ok.some.false =>
    have hroot := ne_nil_of_target htarget
    dsimp only [Bind.bind, Except.bind]
    by_cases hdirectory : tree.entryAt? place = some .directory
    · rw [hdirectory, same.directory_iff.mpr hdirectory]
      exact .refused _
    · have hother : other.entryAt? place ≠ some .directory :=
        fun h => hdirectory (same.directory_iff.mp h)
      split
      · next h => exact absurd h hdirectory
      · exact .changed (same.set hroot rfl)
  all_goals exact .refused _

theorem makeDirectory (path : String) :
    Alike (tree.makeDirectory path) (other.makeDirectory path) := by
  unfold FileTree.makeDirectory
  rw [same.target]
  rcases htarget : tree.target path with cause | ⟨_ | place, slash⟩
  case ok.some =>
    have hroot := ne_nil_of_target htarget
    dsimp only [Bind.bind, Except.bind]
    cases hfound : tree.entryAt? place with
    | none =>
        rw [same.none_iff.mpr hfound]
        exact .changed (same.set hroot rfl)
    | some entry =>
        have hother : other.entryAt? place ≠ none := fun h => by
          rw [same.none_iff.mp h] at hfound
          cases hfound
        obtain ⟨entry', hfound'⟩ := Option.ne_none_iff_exists'.mp hother
        rw [hfound']
        exact .refused _
  all_goals exact .refused _

end SameShape

/-- Making directories goes alike in trees of one shape, also where it fails on the way. -/
theorem SameShape.makeDirectories (same : SameShape tree other)
    (components : List Path.Component) :
    (other.makeDirectories components).1 = (tree.makeDirectories components).1 ∧
      SameShape (tree.makeDirectories components).2 (other.makeDirectories components).2 := by
  induction components with
  | nil => exact ⟨rfl, same⟩
  | cons last before ih =>
      have hpath := same.isDirectory (Path.ofComponents (last :: before).reverse)
      unfold FileTree.makeDirectories
      dsimp only
      have hfirst := same.makeDirectory (Path.ofComponents (last :: before).reverse)
      generalize tree.makeDirectory (Path.ofComponents (last :: before).reverse) = made,
        other.makeDirectory (Path.ofComponents (last :: before).reverse) = made' at hfirst ⊢
      cases hfirst with
      | changed changed => exact ⟨rfl, changed⟩
      | refused cause =>
        split
        · next hmade => cases hmade
        · -- The directories above come first, in both trees.
          revert ih
          rcases tree.makeDirectories before with ⟨answer, above⟩
          rcases other.makeDirectories before with ⟨answer', above'⟩
          rintro ⟨hanswer, hshape⟩
          obtain rfl : answer' = answer := hanswer
          cases answer' with
          | error stopped => exact ⟨rfl, hshape⟩
          | ok done =>
            have hagain := hshape.makeDirectory (Path.ofComponents (last :: before).reverse)
            have hthere := hshape.isDirectory (Path.ofComponents (last :: before).reverse)
            dsimp only at hagain hthere ⊢
            generalize above.makeDirectory (Path.ofComponents (last :: before).reverse) = made,
              above'.makeDirectory (Path.ofComponents (last :: before).reverse) = made'
              at hagain ⊢
            cases hagain with
            | changed changed => exact ⟨rfl, changed⟩
            | refused last =>
              dsimp only
              rw [hthere]
              split
              · exact ⟨rfl, hshape⟩
              · exact ⟨rfl, hshape⟩
        · next stopped hother hmade =>
          obtain rfl : cause = stopped := Except.error.inj hmade
          rw [hpath]
          split
          · exact ⟨rfl, same⟩
          · exact ⟨rfl, same⟩

end FileTree

end KernelControls
