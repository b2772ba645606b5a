import KernelControls.Proofs.Boot.Replaying
import KernelControls.Proofs.FileTrees.Shapes

/-!
# A file tree as nodes

The files below a root are nodes.  Paths name places of the tree, a text is seen where a file holds
one, and a directory or a file without a text is there but cannot be read.

## Strategy

The place of a path is where its walk ends, whether anything stands there or not.  A write puts a
file in the place of a file or of nothing, and no walk goes on from either, so no path names another
place afterwards (`placeOf_set_file`).  Therefore a tree keeps its word as nodes, with nothing asked
of its paths.  A write to a node that is there also leaves the shape of the tree, on which alone it
depends which writes are refused.
-/

namespace KernelControls

/-! ## What is seen of an entry -/

/-- What is seen of a file with some content. -/
def Sight.ofContent (content : ByteArray) : Sight :=
  (String.fromUTF8? content).elim .unreadable .text

/-- What is seen where something stands, or nothing. -/
def Sight.ofEntry : Option Entry → Sight
  | none => .absent
  | some .directory => .unreadable
  | some (.file content) => .ofContent content

theorem Sight.ofContent_ne_absent (content : ByteArray) : Sight.ofContent content ≠ .absent := by
  unfold ofContent
  cases String.fromUTF8? content <;> simp

theorem Sight.ofContent_eq_text {content : ByteArray} {text : String} :
    Sight.ofContent content = .text text ↔ content = text.toUTF8 := by
  unfold ofContent
  constructor
  · intro hsight
    cases hcontent : String.fromUTF8? content with
    | none => rw [hcontent] at hsight; cases hsight
    | some seen =>
        rw [hcontent] at hsight
        obtain rfl : seen = text := Sight.text.inj hsight
        unfold String.fromUTF8? at hcontent
        split at hcontent
        · rw [← Option.some.inj hcontent]
          rfl
        · cases hcontent
  · rintro rfl
    rw [fromUTF8?_toUTF8]
    rfl

theorem Sight.ofEntry_eq_absent {found : Option Entry} :
    Sight.ofEntry found = .absent ↔ found = none := by
  rcases found with _ | ⟨content | _⟩
  · simp [ofEntry]
  · simpa [ofEntry] using ofContent_ne_absent content
  · simp [ofEntry]

/-- A file with a text is known by what is seen of it. -/
theorem Sight.ofEntry_eq_text {found : Option Entry} {text : String} :
    Sight.ofEntry found = .text text ↔ found = some (.file text.toUTF8) := by
  rcases found with _ | ⟨content | _⟩
  · simp [ofEntry]
  · simpa [ofEntry] using ofContent_eq_text
  · simp [ofEntry]

/-! ## The places of a tree -/

namespace FileTree

variable {tree changed : FileTree} {location place : Location} {path : String}
  {content : ByteArray} {entry : Entry}

/-- The location at which the walk of a path ends, whether anything stands there or not. -/
def placeOf (tree : FileTree) (path : String) : Option Location :=
  ((tree.start path).bind fun first => tree.walk first (Path.pieces path)).toOption

/-- What is seen at a place. -/
def sightAt (tree : FileTree) : Option Location → Sight
  | none => .absent
  | some location => .ofEntry (tree.entryAt? location)

theorem placeOf_eq_some : tree.placeOf path = some location ↔
    ∃ first, tree.start path = .ok first ∧ tree.walk first (Path.pieces path) = .ok location := by
  unfold placeOf
  cases tree.start path with
  | error cause => simp [Except.bind, Except.toOption]
  | ok first =>
      simp only [Except.bind, Except.ok.injEq, exists_eq_left']
      cases tree.walk first (Path.pieces path) <;> simp [Except.toOption]

theorem find_iff_placeOf : tree.find path = .ok (location, entry) ↔
    tree.placeOf path = some location ∧ tree.entryAt? location = some entry := by
  rw [find_eq_ok, placeOf_eq_some]
  constructor
  · rintro ⟨first, hstart, hwalk, hentry⟩
    exact ⟨⟨first, hstart, hwalk⟩, hentry⟩
  · rintro ⟨⟨first, hstart, hwalk⟩, hentry⟩
    exact ⟨first, hstart, hwalk, hentry⟩

theorem isPresent_iff :
    tree.isPresent path = true ↔ tree.sightAt (tree.placeOf path) ≠ .absent := by
  constructor
  · intro hpresent
    unfold isPresent at hpresent
    cases hfind : tree.find path with
    | error cause => rw [hfind] at hpresent; cases hpresent
    | ok found =>
        obtain ⟨location, entry⟩ := found
        obtain ⟨hplace, hentry⟩ := find_iff_placeOf.mp hfind
        rw [hplace]
        show Sight.ofEntry (tree.entryAt? location) ≠ _
        rw [ne_eq, Sight.ofEntry_eq_absent, hentry]
        exact Option.some_ne_none entry
  · intro hseen
    cases hplace : tree.placeOf path with
    | none => rw [hplace] at hseen; exact absurd rfl hseen
    | some location =>
        rw [hplace] at hseen
        have hthere : tree.entryAt? location ≠ none := fun h =>
          hseen (Sight.ofEntry_eq_absent.mpr h)
        obtain ⟨entry, hentry⟩ := Option.ne_none_iff_exists'.mp hthere
        unfold isPresent
        rw [find_iff_placeOf.mpr ⟨hplace, hentry⟩]
        rfl

theorem readText_of_seen {text : String} (hseen : tree.sightAt (tree.placeOf path) = .text text) :
    (perform (FileSystem.readText path) tree).1 = .ok text := by
  cases hplace : tree.placeOf path with
  | none => rw [hplace] at hseen; cases hseen
  | some location =>
      rw [hplace] at hseen
      have hfind := find_iff_placeOf.mpr ⟨hplace, Sight.ofEntry_eq_text.mp hseen⟩
      have hread : (perform (FileSystem.read path) tree).1 = .ok text.toUTF8 :=
        read_eq_ok.mpr ⟨location, hfind⟩
      rw [LawfulFiles.readText_run, hread]
      simp only [Except.bind, fromUTF8?_toUTF8]

/-! ## Putting a file -/

/-- Where a file is put, no walk goes on, neither before nor afterwards. -/
theorem placeOf_set_file (hroot : place ≠ []) (hplace : tree.entryAt? place ≠ some .directory) :
    (tree.set place (.file content)).placeOf path = tree.placeOf path := by
  apply Option.ext
  intro location
  rw [placeOf_eq_some, placeOf_eq_some]
  constructor
  · rintro ⟨first, hstart, hwalk⟩
    exact ⟨first, hstart, walk_of_set_file hroot hwalk⟩
  · rintro ⟨first, hstart, hwalk⟩
    exact ⟨first, hstart, walk_set hroot hplace hwalk⟩

theorem sightAt_set_file (tree : FileTree) (hroot : place ≠ []) (text : String) :
    (tree.set place (.file text.toUTF8)).sightAt =
      Function.update tree.sightAt (some place) (.text text) := by
  funext seen
  rw [Function.update_apply]
  cases seen with
  | none => rw [if_neg (Option.some_ne_none place).symm]; rfl
  | some location =>
      show Sight.ofEntry ((tree.set place (.file text.toUTF8)).entryAt? location) = _
      rw [entryAt?_set _ _ _ _ hroot]
      by_cases hhere : location = place
      · rw [if_pos hhere, if_pos (congrArg some hhere), Sight.ofEntry_eq_text]
      · rw [if_neg hhere, if_neg fun h => hhere (Option.some.inj h)]
        rfl

theorem target_of_write (hwrite : tree.write path content = .ok changed) :
    tree.target path = .ok (some (tree.lead path), false) := by
  unfold write at hwrite
  rcases htarget : tree.target path with cause | ⟨_ | place, _ | _⟩
  case ok.some.false => rw [place_of_target htarget]
  all_goals
    rw [htarget] at hwrite
    cases hwrite

/-- A file that was written is what its path leads to. -/
theorem find_of_write (hwrite : tree.write path content = .ok changed) :
    changed.find path = .ok (tree.lead path, .file content) := by
  obtain ⟨-, hplace, rfl⟩ := write_eq_ok hwrite
  exact find_set_of_target (target_of_write hwrite) hplace

theorem placeOf_of_write (hwrite : tree.write path content = .ok changed) :
    tree.placeOf path = some (tree.lead path) := by
  obtain ⟨hplace, -⟩ := find_iff_placeOf.mp (find_of_write hwrite)
  obtain ⟨hroot, hfree, rfl⟩ := write_eq_ok hwrite
  rwa [placeOf_set_file hroot hfree] at hplace

/-- Why a path could not be written, if it could not. -/
def writeRefusal? (tree : FileTree) (path : String) : Option OsError :=
  match tree.write path .empty with
  | .ok _ => none
  | .error cause => some cause

/-- Whether a write is refused does not depend on what is written. -/
theorem write_of_refusal (tree : FileTree) (path : String) (content : ByteArray) :
    match tree.writeRefusal? path with
    | some cause => tree.write path content = .error cause
    | none => ∃ changed, tree.write path content = .ok changed := by
  have halike := (SameShape.refl tree).write path .empty content
  unfold writeRefusal?
  generalize tree.write path .empty = first, tree.write path content = second at halike ⊢
  cases halike with
  | refused cause => rfl
  | changed same => exact ⟨_, rfl⟩

theorem SameShape.writeRefusal? {other : FileTree} (same : SameShape tree other) (path : String) :
    other.writeRefusal? path = tree.writeRefusal? path := by
  have halike := same.write path .empty .empty
  unfold FileTree.writeRefusal?
  generalize tree.write path .empty = first, other.write path .empty = second at halike ⊢
  cases halike with
  | refused cause => rfl
  | changed same => rfl

/-- What is there and can be written is a file. -/
theorem find_of_isPresent (hpresent : tree.isPresent path = true)
    (hwrite : tree.write path content = .ok changed) :
    ∃ old, tree.find path = .ok (tree.lead path, .file old) := by
  have hplace := placeOf_of_write hwrite
  obtain ⟨-, hfree, -⟩ := write_eq_ok hwrite
  rw [isPresent_iff, hplace] at hpresent
  rcases hentry : tree.entryAt? (tree.lead path) with _ | ⟨old | _⟩
  · exact absurd (Sight.ofEntry_eq_absent.mpr hentry) hpresent
  · exact ⟨old, find_iff_placeOf.mpr ⟨hplace, hentry⟩⟩
  · exact absurd hentry hfree

/-- A write to a file that is there leaves the shape of the tree. -/
theorem SameShape.of_write (hpresent : tree.isPresent path = true)
    (hwrite : tree.write path content = .ok changed) : SameShape tree changed := by
  obtain ⟨old, hfind⟩ := find_of_isPresent hpresent hwrite
  obtain ⟨hroot, -, rfl⟩ := write_eq_ok hwrite
  exact .set_file hroot (find_iff_placeOf.mp hfind).2

end FileTree

/-! ## The nodes below a root -/

/-- A file tree, and the root of the nodes in it. -/
structure TreeNodes where
  root : String
  files : FileTree

namespace TreeNodes

variable (nodes : TreeNodes) (path text : String)

/-- The file of a node. -/
def file : String :=
  Path.resolve nodes.root path

/-- What can be seen of the nodes: the places where the walks of their paths end. -/
def view : NodeTree (Option Location) where
  place path := nodes.files.placeOf (nodes.file path)
  sight := nodes.files.sightAt

/-- Work on the files. -/
def onFiles {Value : Type} (action : StateM FileTree Value) : Value × TreeNodes :=
  let done := perform action nodes.files
  (done.1, { nodes with files := done.2 })

instance : NodeAccess (StateM TreeNodes) where
  isPresent path := fun nodes => nodes.onFiles (NodeFile.isPresent nodes.root path)
  read path := fun nodes => nodes.onFiles (NodeFile.read nodes.root path)
  write path text := fun nodes => nodes.onFiles (NodeFile.write nodes.root path text)

theorem read_world : (perform (NodeAccess.read path) nodes).2 = nodes :=
  congrArg (TreeNodes.mk nodes.root) (LawfulFiles.readText_world (nodes.file path) nodes.files)

/-- Why the file of a node cannot be written, if it cannot. -/
def refusal? : Option NodeError :=
  (nodes.files.writeRefusal? (nodes.file path)).map (.unwritable path)

/-- What becomes of a write: the file cannot be written, or it is. -/
theorem write_cases :
    (∃ error, nodes.refusal? path = some error ∧
      perform (NodeAccess.write path text) nodes = (.error error, nodes)) ∨
    nodes.refusal? path = none ∧ ∃ changed,
      nodes.files.write (nodes.file path) text.toUTF8 = .ok changed ∧
      perform (NodeAccess.write path text) nodes = (.ok (), { nodes with files := changed }) := by
  have hwrite := nodes.files.write_of_refusal (nodes.file path) text.toUTF8
  -- the file is written as the file system settles it
  have hrun : perform (NodeAccess.write path text) nodes =
      let settled := nodes.files.settle (nodes.files.write (nodes.file path) text.toUTF8)
      (settled.1.mapError (.unwritable path), { nodes with files := settled.2 }) := rfl
  unfold refusal?
  cases hrefusal : nodes.files.writeRefusal? (nodes.file path) with
  | some cause =>
      rw [hrefusal] at hwrite
      dsimp only at hwrite
      rw [hrun, hwrite]
      exact .inl ⟨_, rfl, rfl⟩
  | none =>
      rw [hrefusal] at hwrite
      obtain ⟨changed, hchanged⟩ := hwrite
      rw [hrun, hchanged]
      exact .inr ⟨rfl, changed, rfl, rfl⟩

theorem root_write : (perform (NodeAccess.write path text) nodes).2.root = nodes.root := rfl

theorem view_of_write {changed : FileTree}
    (hwrite : nodes.files.write (nodes.file path) text.toUTF8 = .ok changed) :
    view { nodes with files := changed } = nodes.view.put path text := by
  have hplace := FileTree.placeOf_of_write hwrite
  obtain ⟨hroot, hfree, rfl⟩ := FileTree.write_eq_ok hwrite
  have hsight := nodes.files.sightAt_set_file hroot text
  rw [← hplace] at hsight
  unfold view NodeTree.put
  congr 1
  funext other
  exact FileTree.placeOf_set_file hroot hfree

instance : LawfulNodes TreeNodes (Option Location) where
  tree := view
  isPresent_answer path nodes := by
    show nodes.files.isPresent (nodes.file path) =
      decide (nodes.files.sightAt (nodes.files.placeOf (nodes.file path)) ≠ .absent)
    rw [Bool.eq_iff_iff, decide_eq_true_iff]
    exact FileTree.isPresent_iff
  isPresent_tree _ _ := rfl
  read_answer path text nodes hseen := by
    show NodeFile.answer path
      (perform (FileSystem.readText (nodes.file path)) nodes.files).1 = .ok text
    rw [FileTree.readText_of_seen hseen]
    rfl
  read_tree path nodes := congrArg view (nodes.read_world path)
  write_accepted path text nodes haccepted := by
    rcases nodes.write_cases path text with ⟨error, -, hrefused⟩ | ⟨-, changed, hwrite, hrun⟩
    · rw [hrefused] at haccepted
      cases haccepted
    · rw [hrun]
      exact nodes.view_of_write path text hwrite
  write_outside path text nodes := by
    rcases nodes.write_cases path text with ⟨error, -, hrefused⟩ | ⟨-, changed, hwrite, hrun⟩
    · rw [hrefused]
      exact .refl _ _
    · rw [hrun, nodes.view_of_write path text hwrite]
      exact nodes.view.eqOutside_put path text

instance : SteadyNodes TreeNodes (Option Location) where
  refusal := refusal?
  write_answer path text nodes _ := by
    rcases nodes.write_cases path text with ⟨error, hwhy, hrefused⟩ | ⟨hnone, changed, -, hrun⟩
    · rw [hwhy, hrefused]
    · rw [hnone, hrun]
  write_refused path text nodes _ hrefusal := by
    rcases nodes.write_cases path text with ⟨error, -, hrefused⟩ | ⟨hnone, -⟩
    · rw [hrefused]
    · rw [hnone] at hrefusal
      cases hrefusal
  refusal_write path text nodes hpresent := by
    rcases nodes.write_cases path text with ⟨error, -, hrefused⟩ | ⟨-, changed, hwrite, hrun⟩
    · rw [hrefused]
    · -- a node that is there is written in its place, so the shape of the tree stays
      have hthere : nodes.files.isPresent (nodes.file path) = true :=
        FileTree.isPresent_iff.mpr (of_decide_eq_true hpresent)
      rw [hrun]
      funext other
      show ((changed.writeRefusal? _).map _) = _
      rw [(FileTree.SameShape.of_write hthere hwrite).writeRefusal?]
      rfl
  refusal_isPresent _ _ := rfl

end TreeNodes

end KernelControls
