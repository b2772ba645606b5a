import KernelControls.Proofs.Stores.KeptFiles
import KernelControls.Proofs.FileTrees.Paths

/-!
# Files as nodes

A node is a file below the root of the nodes, and its path leads there from the root along its
names.  Writing a node that is there changes this one file and no walk.  Saving preferences makes
directories and a file, and as long as these are not inside the root of the nodes, every node is
what it was.

## Strategy

A walk that ends has gone where the components say (`location_of_walk`), so it is known without
the tree which place a path names and which places a saving can touch.  What a saving does to the
tree is `Grown`: directories stay directories, and nothing changes inside the root.  So a walk to
the root goes as before, and from there on nothing is different.
-/

namespace KernelControls.FileTree

variable {tree : FileTree} {location next place base : Location} {entry : Entry}
  {path root : String}

/-! ## Where a walk ends -/

/-- Where the walk of a path starts. -/
def origin (tree : FileTree) (path : String) : Location :=
  if Path.isAbsolute path then [] else tree.workingDirectory

/-- Where a path leads, if everything on the way is a directory. -/
def lead (tree : FileTree) (path : String) : Location :=
  Path.follow tree.workingDirectory (Path.components path)

theorem lead_eq (tree : FileTree) (path : String) :
    tree.lead path = Path.follow (tree.origin path) (Path.named path) :=
  Path.follow_components tree.workingDirectory path

theorem origin_of_start {first : Location} (hstart : tree.start path = .ok first) :
    first = tree.origin path := by
  unfold start at hstart
  unfold origin
  split at hstart
  · cases hstart
  split at hstart
  · cases hstart
  split at hstart
  · cases hstart
  split at hstart
  · next habsolute => rw [if_pos habsolute]; exact (Except.ok.inj hstart).symm
  · next hrelative => rw [if_neg hrelative]; exact (Except.ok.inj hstart).symm

theorem location_of_enter {piece : String} (henter : tree.enter location piece = .ok next) :
    next = Path.follow location (Path.Component.ofPiece? piece).toList := by
  have hdirectory := directory_of_enter henter
  unfold Path.Component.ofPiece?
  split
  · unfold enter at henter
    rw [hdirectory] at henter
    exact (Except.ok.inj henter).symm
  · unfold enter at henter
    rw [hdirectory] at henter
    exact (Except.ok.inj henter).symm
  · unfold enter at henter
    rw [hdirectory] at henter
    exact (Except.ok.inj henter).symm
  · next hempty hhere hup => exact enter_name ⟨hempty, hhere, hup⟩ henter

theorem location_of_walk {pieces : List String} (hwalk : tree.walk location pieces = .ok next) :
    next = Path.follow location (pieces.filterMap Path.Component.ofPiece?) := by
  induction pieces generalizing location with
  | nil => exact (Except.ok.inj hwalk).symm
  | cons piece rest ih =>
      obtain ⟨middle, henter, hrest⟩ := walk_cons_eq_ok.mp hwalk
      have hmiddle := location_of_enter henter
      rw [List.filterMap_cons]
      cases hpiece : Path.Component.ofPiece? piece with
      | none =>
          rw [hpiece] at hmiddle
          obtain rfl : middle = location := hmiddle
          exact ih hrest
      | some component =>
          rw [hpiece] at hmiddle
          rw [ih hrest, hmiddle]
          rfl

theorem location_of_find (hfind : tree.find path = .ok (location, entry)) :
    location = tree.lead path := by
  obtain ⟨first, hstart, hwalk, -⟩ := find_eq_ok.mp hfind
  rw [lead_eq, ← origin_of_start hstart]
  exact location_of_walk hwalk

theorem place_of_target {slash : Bool} (htarget : tree.target path = .ok (some place, slash)) :
    place = tree.lead path := by
  obtain ⟨first, parent, before, last, empties, hstart, hwalk, henter, -, hpieces, hempties, -⟩ :=
    exists_of_target htarget
  have hnothing : empties.filterMap Path.Component.ofPiece? = [] :=
    List.filterMap_eq_nil_iff.mpr fun piece hpiece => by rw [hempties piece hpiece]; rfl
  rw [lead_eq, ← origin_of_start hstart, location_of_enter henter, location_of_walk hwalk]
  unfold Path.named
  rw [hpieces, List.filterMap_append, Path.follow_append, List.filterMap_cons, hnothing]
  cases Path.Component.ofPiece? last <;> rfl

/-! ## Changes away from a directory -/

/-- A location that lies in a directory or below one in it. -/
def Inside (base location : Location) : Prop :=
  base <+: location ∧ location ≠ base

instance (base location : Location) : Decidable (Inside base location) :=
  inferInstanceAs (Decidable (_ ∧ _))

/-- A tree that changed nowhere inside a directory, and in which no directory was lost. -/
structure Grown (base : Location) (before after : FileTree) : Prop where
  workingDirectory : after.workingDirectory = before.workingDirectory
  inside : ∀ location, base <+: location → after.entryAt? location = before.entryAt? location
  directories : ∀ location, before.entryAt? location = some .directory →
    after.entryAt? location = some .directory

namespace Grown

variable {before middle after : FileTree}

theorem refl (base : Location) (tree : FileTree) : Grown base tree tree :=
  ⟨rfl, fun _ _ => rfl, fun _ hdirectory => hdirectory⟩

theorem trans (first : Grown base before middle) (second : Grown base middle after) :
    Grown base before after where
  workingDirectory := second.workingDirectory.trans first.workingDirectory
  inside location hinside := (second.inside location hinside).trans (first.inside location hinside)
  directories location hdirectory :=
    second.directories location (first.directories location hdirectory)

/-- Something new outside a directory, or in the place of a file. -/
theorem set (hbase : tree.entryAt? base = some .directory) (hroot : place ≠ [])
    (hplace : tree.entryAt? place ≠ some .directory) (houtside : ¬ Inside base place) :
    Grown base tree (tree.set place entry) where
  workingDirectory := rfl
  inside location hinside := by
    have hother : location ≠ place := by
      rintro rfl
      exact houtside ⟨hinside, fun hsame => hplace (hsame ▸ hbase)⟩
    rw [entryAt?_set _ _ _ _ hroot, if_neg hother]
  directories := directory_set hroot hplace

/-- No walk that went through is stopped. -/
theorem walk {pieces : List String} (grown : Grown base before after)
    (hwalk : before.walk location pieces = .ok next) : after.walk location pieces = .ok next :=
  walk_of_directories grown.directories hwalk

/-- Inside the directory every walk down goes as before. -/
theorem walk_inside {pieces : List String} (grown : Grown base before after)
    (hinside : base <+: location) (hdown : ".." ∉ pieces) :
    after.walk location pieces = before.walk location pieces := by
  induction pieces generalizing location with
  | nil => rfl
  | cons piece rest ih =>
      obtain ⟨hpiece, hrest⟩ := List.ne_and_not_mem_of_not_mem_cons hdown
      have hsame : after.enter location piece = before.enter location piece := by
        unfold FileTree.enter
        rw [grown.inside location hinside]
      unfold FileTree.walk
      rw [hsame]
      cases henter : before.enter location piece with
      | error cause => rfl
      | ok middle => exact ih (hinside.trans (prefix_of_enter hpiece.symm henter)) hrest

end Grown

/-! ## Nodes below their root -/

/-- The root of the nodes is there. -/
structure Reaches (tree : FileTree) (root : String) : Prop where
  walk : tree.walk (tree.origin root) (Path.front root) = .ok (tree.lead root)
  directory : tree.entryAt? (tree.lead root) = some .directory

theorem origin_resolve : tree.origin (Path.resolve root path) = tree.origin root := by
  unfold origin
  rw [Path.isAbsolute_resolve]

/-- Behind a root, a path that never steps back leads on along its names. -/
theorem lead_resolve_of_down (hdown : .up ∉ Path.named path) :
    tree.lead (Path.resolve root path) = tree.lead root ++ Path.names path := by
  rw [lead_eq, lead_eq, origin_resolve, Path.named_resolve, Path.follow_append,
    Path.named_eq_names hdown, Path.follow_names]

section Node

variable (node : Path.IsNode path)
include node

theorem lead_resolve : tree.lead (Path.resolve root path) = tree.lead root ++ Path.names path :=
  lead_resolve_of_down node.up_notMem_named

/-- Only from a root that is there does a path lead to a node. -/
theorem reaches_of_find (hfind : tree.find (Path.resolve root path) = .ok (location, entry)) :
    tree.Reaches root := by
  obtain ⟨first, hstart, hwalk, -⟩ := find_eq_ok.mp hfind
  rw [origin_of_start hstart, origin_resolve, node.pieces_resolve] at hwalk
  obtain ⟨middle, hroot, hnames⟩ := walk_append_eq_ok.mp hwalk
  have hmiddle : middle = tree.lead root := by
    rw [lead_eq, location_of_walk hroot, Path.named_eq_front]
  subst hmiddle
  refine ⟨hroot, ?_⟩
  -- The path has a name, and to take the first one the root must be a directory.
  cases hpath : Path.names path with
  | nil => exact absurd hpath node.names_ne_nil
  | cons first rest =>
      obtain ⟨next, henter, -⟩ := walk_cons_eq_ok.mp (hpath ▸ hnames)
      exact directory_of_enter henter

/-- From a root that is there, a path leads on along its names. -/
theorem find_resolve (reaches : tree.Reaches root) : tree.find (Path.resolve root path) =
    (tree.start (Path.resolve root path)).bind fun _ =>
      (tree.walk (tree.lead root) (Path.names path)).bind fun location =>
        match tree.entryAt? location with
        | some entry => .ok (location, entry)
        | none => .error .noEntry := by
  unfold find
  cases hstart : tree.start (Path.resolve root path) with
  | error cause => rfl
  | ok first =>
      dsimp only [Bind.bind, Except.bind]
      rw [origin_of_start hstart, origin_resolve, node.pieces_resolve,
        walk_append reaches.walk]
      rfl

theorem notMem_names : ".." ∉ Path.names path :=
  fun hmem => (node.mem_names hmem).2.2 rfl

/-- Where nothing changed inside the root, every node is what it was. -/
theorem Grown.find_resolve {before after : FileTree} (grown : Grown (before.lead root) before after)
    (reaches : before.Reaches root) :
    after.find (Path.resolve root path) = before.find (Path.resolve root path) := by
  have hlead : after.lead root = before.lead root := by
    unfold lead
    rw [grown.workingDirectory]
  have horigin : after.origin root = before.origin root := by
    unfold origin
    rw [grown.workingDirectory]
  have hstart : after.start (Path.resolve root path) = before.start (Path.resolve root path) := by
    unfold start
    rw [grown.workingDirectory]
  have hreaches : after.Reaches root := by
    refine ⟨?_, ?_⟩
    · rw [hlead, horigin]
      exact grown.walk reaches.walk
    · rw [hlead]
      exact grown.directories _ reaches.directory
  have hdown := notMem_names node
  -- Both walks come to the root, and from there on they stay inside.
  rw [FileTree.find_resolve node reaches, FileTree.find_resolve node hreaches, hstart, hlead,
    grown.walk_inside (List.prefix_refl _) hdown]
  cases hwalk : before.walk (before.lead root) (Path.names path) with
  | error cause => rfl
  | ok location =>
      simp only [Except.bind]
      rw [grown.inside location (prefix_of_walk hdown hwalk)]

end Node

/-! ## Writing a node -/

/-- What a path leads to along a last name is what it would create, whatever stands there. -/
theorem target_of_walk {first : Location} {before : List String} {last : String}
    (hstart : tree.start path = .ok first)
    (hwalk : tree.walk first (Path.pieces path) = .ok location)
    (hpieces : Path.pieces path = before ++ [last])
    (hlast : last ≠ "" ∧ last ≠ "." ∧ last ≠ "..") :
    tree.target path = .ok (some location, false) := by
  obtain ⟨hempty, hhere, hup⟩ := hlast
  rw [hpieces] at hwalk
  -- The walk reaches the directory above, and the last step is the one that a creation takes.
  obtain ⟨parent, hparent, hrest⟩ := walk_append_eq_ok.mp hwalk
  obtain ⟨next, henter, hnext⟩ := walk_cons_eq_ok.mp hrest
  obtain rfl : next = location := Except.ok.inj hnext
  have hend : (before ++ [last]).getLast? = some last := List.getLast?_concat
  have hslash : (some last == some "") = false := by simpa using hempty
  have hnamed : ((before ++ [last]).reverse.dropWhile fun piece => piece = "").reverse =
      before ++ [last] := reverse_dropWhile_reverse (by simpa [hend] using hempty)
  unfold target
  rw [hstart, hpieces]
  simp only [Bind.bind, Except.bind, hnamed, hend, List.dropLast_concat, hparent, henter, hslash]
  simp only [hhere, hup, decide_false, Bool.or_self, Bool.false_eq_true, if_false]
  rfl

theorem write_node (node : Path.IsNode path) {old : ByteArray}
    (hfind : tree.find (Path.resolve root path) = .ok (location, .file old)) (content : ByteArray) :
    tree.write (Path.resolve root path) content = .ok (tree.set location (.file content)) := by
  obtain ⟨before, last, hnames⟩ : ∃ before last, Path.names path = before ++ [last] :=
    ⟨_, _, (List.dropLast_concat_getLast node.names_ne_nil).symm⟩
  -- The path of a node ends in a name, so what it leads to is what it would create.
  have hpieces : Path.pieces (Path.resolve root path) = (Path.front root ++ before) ++ [last] := by
    rw [node.pieces_resolve, hnames, List.append_assoc]
  have hlast : last ∈ Path.names path := by
    rw [hnames]
    exact List.mem_append_right _ List.mem_cons_self
  obtain ⟨first, hstart, hwalk, hentry⟩ := find_eq_ok.mp hfind
  unfold write
  rw [target_of_walk hstart hwalk hpieces (node.mem_names hlast)]
  simp only [Bind.bind, Except.bind, hentry]
  rfl

section SetFile

variable {old new : ByteArray} (hroot : place ≠ []) (hfile : tree.entryAt? place = some (.file old))
include hroot hfile

theorem walk_set_file (location : Location) (pieces : List String) :
    (tree.set place (.file new)).walk location pieces = tree.walk location pieces := by
  induction pieces generalizing location with
  | nil => rfl
  | cons piece rest ih =>
      have hsame : (tree.set place (.file new)).enter location piece =
          tree.enter location piece := by
        unfold enter
        rw [entryAt?_set _ _ _ _ hroot]
        by_cases hhere : location = place
        · rw [if_pos hhere, hhere, hfile]
        · rw [if_neg hhere]
      unfold walk
      rw [hsame]
      cases tree.enter location piece with
      | error cause => rfl
      | ok next => exact ih next

theorem find_set_file : (tree.set place (.file new)).find path =
    (tree.find path).map fun found => if found.1 = place then (place, .file new) else found := by
  have hstart : (tree.set place (.file new)).start path = tree.start path := rfl
  unfold find
  rw [hstart]
  cases tree.start path with
  | error cause => rfl
  | ok first =>
      simp only [Bind.bind, Except.bind, walk_set_file hroot hfile]
      cases tree.walk first (Path.pieces path) with
      | error cause => rfl
      | ok location =>
          simp only [entryAt?_set _ _ _ _ hroot]
          by_cases hhere : location = place
          · -- The walk ends at the file, which holds the new text.
            rw [if_pos hhere, hhere, hfile]
            simp [Pure.pure, Except.pure, Except.map]
          · rw [if_neg hhere]
            cases tree.entryAt? location with
            | none => rfl
            | some entry => simp [Pure.pure, Except.pure, Except.map, hhere]

/-- Paths that lead elsewhere lead to what they led to. -/
theorem find_set_file_of_ne (hother : tree.lead path ≠ place) :
    (tree.set place (.file new)).find path = tree.find path := by
  rw [find_set_file hroot hfile]
  cases hfind : tree.find path with
  | error cause => rfl
  | ok found =>
      have hfound : tree.find path = .ok (found.1, found.2) := hfind
      have hlocation : found.1 ≠ place := location_of_find hfound ▸ hother
      simp [Except.map, hlocation]

end SetFile

/-! ## Saving preferences -/

/-- Whether no name on a path lies inside a directory. -/
def avoids (base : Location) : Location → List Path.Component → Bool
  | _, [] => true
  | location, .name text :: rest =>
    !decide (Inside base (location ++ [text])) && avoids base (location ++ [text]) rest
  | location, component :: rest => avoids base (Path.move location component) rest

theorem not_inside_of_avoids {before after : List Path.Component} {text : String}
    (havoids : avoids base location (before ++ .name text :: after) = true) :
    ¬ Inside base (Path.follow location (before ++ [.name text])) := by
  induction before generalizing location with
  | nil =>
      obtain ⟨houtside, -⟩ := Bool.and_eq_true_iff.mp havoids
      have hdecided : decide (Inside base (location ++ [text])) = false := by simpa using houtside
      exact of_decide_eq_false hdecided
  | cons component rest ih =>
      cases component with
      | name found => exact ih (Bool.and_eq_true_iff.mp havoids).2
      | _ => exact ih havoids

theorem components_of_target {slash : Bool}
    (htarget : tree.target path = .ok (some place, slash)) :
    ∃ before text, Path.components path = before ++ [.name text] := by
  obtain ⟨first, parent, before, last, empties, -, -, henter, hplace, hpieces, hempties, -⟩ :=
    exists_of_target htarget
  have hlocation := hplace.symm.trans (location_of_enter henter)
  -- Only a name makes the place longer than its parent.
  obtain ⟨text, hlast⟩ : ∃ text, Path.Component.ofPiece? last = some (.name text) := by
    cases hlast : Path.Component.ofPiece? last with
    | none => rw [hlast] at hlocation; simp [Path.follow] at hlocation
    | some component =>
        rw [hlast] at hlocation
        cases component with
        | name text => exact ⟨text, rfl⟩
        | root => simp [Path.follow, Path.move] at hlocation
        | here => simp [Path.follow, Path.move] at hlocation
        | up =>
            have hlength := congrArg List.length hlocation
            simp [Path.follow, Path.move] at hlength
            omega
  have hnothing : empties.filterMap Path.Component.ofPiece? = [] :=
    List.filterMap_eq_nil_iff.mpr fun piece hpiece => by rw [hempties piece hpiece]; rfl
  have hnamed : Path.named path =
      before.filterMap Path.Component.ofPiece? ++ [.name text] := by
    unfold Path.named
    rw [hpieces, List.filterMap_append, List.filterMap_cons_some hlast, hnothing]
  rcases Path.components_cases path with hroot | hhere | hplain
  · exact ⟨.root :: _, text, by rw [hroot, hnamed]; rfl⟩
  · exact ⟨.here :: _, text, by rw [hhere, hnamed]; rfl⟩
  · exact ⟨_, text, by rw [hplain, hnamed]⟩

theorem not_inside_of_target {slash : Bool}
    (havoids : avoids base tree.workingDirectory (Path.components path) = true)
    (htarget : tree.target path = .ok (some place, slash)) : ¬ Inside base place := by
  obtain ⟨before, text, hcomponents⟩ := components_of_target htarget
  rw [hcomponents] at havoids
  rw [place_of_target htarget, lead, hcomponents]
  exact not_inside_of_avoids havoids

theorem avoids_of_begins {first whole : List Path.Component} (hbegins : first <+: whole)
    (havoids : avoids base location whole = true) : avoids base location first = true := by
  obtain ⟨rest, rfl⟩ := hbegins
  induction first generalizing location with
  | nil => rfl
  | cons component more ih =>
      cases component with
      | name text =>
          obtain ⟨houtside, hmore⟩ := Bool.and_eq_true_iff.mp havoids
          exact Bool.and_eq_true_iff.mpr ⟨houtside, ih hmore⟩
      | _ => exact ih havoids

namespace Grown

theorem target {slash : Bool} (hbase : tree.entryAt? base = some .directory)
    (havoids : avoids base tree.workingDirectory (Path.components path) = true)
    (htarget : tree.target path = .ok (some place, slash))
    (hplace : tree.entryAt? place ≠ some .directory) : Grown base tree (tree.set place entry) :=
  .set hbase (ne_nil_of_target htarget) hplace (not_inside_of_target havoids htarget)

theorem makeDirectory {made : FileTree} (hbase : tree.entryAt? base = some .directory)
    (havoids : avoids base tree.workingDirectory (Path.components path) = true)
    (hmade : tree.makeDirectory path = .ok made) : Grown base tree made := by
  obtain ⟨place, slash, htarget, hfree, rfl⟩ := makeDirectory_eq_ok hmade
  exact .target hbase havoids htarget (by rw [hfree]; exact nofun)

theorem makeDirectories {components : List Path.Component}
    (hbase : tree.entryAt? base = some .directory)
    (hbegins : components.reverse <+: Path.components path)
    (havoids : avoids base tree.workingDirectory (Path.components path) = true) :
    Grown base tree (tree.makeDirectories components).2 := by
  refine makeDirectories_keeps hbegins (fun hsome hfirst grown hmade => ?_) (.refl base tree)
  refine grown.trans (makeDirectory (grown.directories _ hbase) ?_ hmade)
  rw [Path.components_ofComponents hfirst hsome, grown.workingDirectory]
  exact avoids_of_begins hfirst havoids

theorem replaceFrom {directory text : String} (hbase : tree.entryAt? base = some .directory)
    (havoids : avoids base tree.workingDirectory (Path.components path) = true) :
    Grown base tree (tree.replaceFrom directory path text).2 := by
  rcases tree.replaceFrom_cases directory path text with
    ⟨error, hrefused⟩ | ⟨changed, hreplace, haccepted⟩
  · rw [hrefused]
    exact .refl _ _
  obtain ⟨place, htarget, hplace, rfl⟩ := replace_eq_ok hreplace
  rw [haccepted]
  exact .target hbase havoids htarget hplace

end Grown

/-- The directory of a preference file is made of the first components of its path. -/
theorem components_directory (path : String) :
    Path.components (PreferenceFile.directory path) <+: Path.components path ∨
      Path.components (PreferenceFile.directory path) = [.here] := by
  have hhere : Path.components "." = [.here] := by decide
  unfold PreferenceFile.directory Path.parent?
  split
  · next parent hparent =>
      split at hparent
      · cases hparent
      · cases hparent
      · obtain rfl := Option.some.inj hparent
        split
        · exact .inr hhere
        · next hsome =>
            left
            have hdropped : (Path.components path).dropLast ≠ [] := by
              intro hnone
              rw [hnone] at hsome
              exact hsome rfl
            rw [Path.components_ofComponents (List.dropLast_prefix _) hdropped]
            exact List.dropLast_prefix _
  · exact .inr hhere

/-- Saving preferences changes nothing inside a directory that their path does not enter. -/
theorem Grown.writePreferences (hbase : tree.entryAt? base = some .directory)
    (havoids : avoids base tree.workingDirectory (Path.components path) = true)
    (preferences : Preferences) :
    Grown base tree (perform (PreferenceFile.write path preferences) tree).2 := by
  have hmade : Grown base tree
      (perform (FileSystem.makeDirectories (PreferenceFile.directory path)) tree).2 := by
    have hwhole : (Path.components (PreferenceFile.directory path)).reverse.reverse <+:
        Path.components (PreferenceFile.directory path) := by simp
    refine .makeDirectories hbase hwhole ?_
    rcases components_directory path with hbegins | hhere
    · exact avoids_of_begins hbegins havoids
    · rw [hhere]
      rfl
  have hplaced : ∀ text, Grown base tree (perform (FileSystem.replace
      (PreferenceFile.directory path) path text) (perform (FileSystem.makeDirectories
        (PreferenceFile.directory path)) tree).2).2 := by
    intro text
    refine hmade.trans (.replaceFrom (hmade.directories _ hbase) ?_)
    rw [hmade.workingDirectory]
    exact havoids
  rcases PreferenceFile.write_cases path preferences tree with
    ⟨_, hwrite⟩ | ⟨_, _, -, hwrite⟩ | ⟨-, hwrite⟩
  · rw [hwrite]; exact hmade
  · rw [hwrite]; exact hplaced _
  · rw [hwrite]; exact hplaced _

end KernelControls.FileTree
