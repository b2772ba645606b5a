import KernelControls.Proofs.FileTrees.NodeFiles
import KernelControls.Proofs.Backends.Watching

/-!
# What a bench and a site have in common

A bench stands for a machine if its nodes are the files below the root of the machine's site, and
both have the same preferences saved.  Requests that are not refused keep it so.

## Strategy

`Bench.Corresponds` holds of each node by one equation (`Corresponds.find`).  A write keeps it,
because node paths lead to the same place only if they are spellings of one another.  A saving keeps
it, because it changes nothing inside the root (`FileTree.Grown`); this needs the root to be there,
so something is saved only under the path of a node that is known to be there.  These are the laws
of a `Simulation`.
-/

namespace KernelControls

instance : DecidableEq Entry
  | .file content, .file other =>
    @decidable_of_iff _ (content = other) ⟨congrArg _, Entry.file.inj⟩
      (ByteArray.instDecidableEq content other)
  | .file _, .directory => .isFalse Entry.noConfusion
  | .directory, .file _ => .isFalse Entry.noConfusion
  | .directory, .directory => .isTrue rfl

/-! ## Nodes below the root of a site -/

namespace FileTree

/-- What a path leads to if it leads to a file with a text, or to nothing. -/
def holding (tree : FileTree) (path : String) : Option String → Except OsError (Location × Entry)
  | some text => .ok (tree.lead path, .file text.toUTF8)
  | none => .error .noEntry

variable {tree : FileTree} {path : String} {value : Option String}

theorem read_of_find (hfind : tree.find path = tree.holding path value) (text : String) :
    value = some text ↔ tree.read path = .ok text.toUTF8 := by
  rw [read_eq_ok, hfind]
  cases value with
  | none => simp [holding]
  | some found =>
      constructor
      · intro hsame
        exact ⟨_, by rw [hsame]; rfl⟩
      · rintro ⟨location, hholding⟩
        obtain ⟨-, hentry⟩ := Prod.mk.inj (Except.ok.inj hholding)
        exact congrArg some (String.toByteArray_inj.mp (Entry.file.inj hentry))

theorem readText_of_find (hfind : tree.find path = tree.holding path value) :
    perform (FileSystem.readText path) tree = (value.elim (.error .noEntry) .ok, tree) := by
  have hread : (perform (FileSystem.read path) tree).1 =
      value.elim (.error .noEntry) fun text => .ok text.toUTF8 := by
    cases value with
    | none =>
        show tree.read path = _
        unfold read
        rw [hfind]
        rfl
    | some text => exact (read_of_find hfind text).mp rfl
  rw [LawfulFiles.readText_run, hread]
  cases value with
  | none => rfl
  | some text =>
      show (match String.fromUTF8? text.toUTF8 with
        | some found => _
        | none => _, tree) = _
      rw [fromUTF8?_toUTF8]
      rfl

theorem fileContent_of_find {other : FileTree} (hfind : tree.find path = other.find path) :
    fileContent path tree = fileContent path other := by
  show (if tree.isPresent path then (tree.read path).toOption else none) =
    if other.isPresent path then (other.read path).toOption else none
  unfold isPresent read
  rw [hfind]

theorem find_of_read {text : String} (hread : tree.read path = .ok text.toUTF8) :
    tree.find path = tree.holding path (some text) := by
  obtain ⟨location, hfind⟩ := read_eq_ok.mp hread
  rw [hfind, location_of_find hfind]
  rfl

end FileTree

namespace FileStore

section Nodes

variable {Files : Type} [FileSystem (StateM Files)]

instance : NodeAccess (StateM (FileStore Files)) where
  isPresent path := fun store => store.run (NodeAccess.isPresent path)
  read path := fun store => store.run (NodeAccess.read path)
  write path text := fun store => store.run (NodeAccess.write path text)

/-- The file of a node. -/
def nodeFile (store : FileStore Files) (path : String) : String :=
  Path.resolve store.site.nodeRoot path

variable (store : FileStore Files) (path text : String)

theorem read_node : perform (NodeAccess.read path) store =
    let seen := perform (FileSystem.readText (store.nodeFile path)) store.files
    (NodeFile.answer path seen.1, { store with files := seen.2 }) := rfl

theorem write_node : perform (NodeAccess.write path text) store =
    let written := perform (FileSystem.write (store.nodeFile path) text) store.files
    (written.1.mapError (.unwritable path), { store with files := written.2 }) := rfl

end Nodes

variable {store : FileStore FileTree} {path : String} {value : Option String}

section Holding

variable (hfind : store.files.find (store.nodeFile path) =
  store.files.holding (store.nodeFile path) value)
include hfind

theorem run_isPresent : perform (NodeAccess.isPresent path) store = (value.isSome, store) := by
  show (store.files.isPresent (store.nodeFile path), store) = _
  unfold FileTree.isPresent
  rw [hfind]
  cases value <;> rfl

theorem run_read : perform (NodeAccess.read path) store =
    (value.elim (.error (.notFound path)) .ok, store) := by
  have htext : perform (FileSystem.readText (store.nodeFile path)) store.files = _ :=
    FileTree.readText_of_find hfind
  rw [store.read_node, htext]
  cases value <;> rfl

end Holding

theorem run_write (node : Path.IsNode path) {old : String}
    (hfind : store.files.find (store.nodeFile path) =
      store.files.holding (store.nodeFile path) (some old)) (text : String) :
    perform (NodeAccess.write path text) store = (.ok (), { store with
      files := store.files.set (store.files.lead (store.nodeFile path)) (.file text.toUTF8) }) := by
  have hwrite : perform (FileSystem.write (store.nodeFile path) text) store.files =
      store.files.settle _ :=
    congrArg store.files.settle (FileTree.write_node node hfind text.toUTF8)
  rw [store.write_node, hwrite]
  rfl

end FileStore

/-! ## What bench and files have in common -/

/-- The paths of the nodes of a catalog. -/
def Catalog.paths (catalog : Catalog) : List String :=
  catalog.families.flatMap fun family => family.controls.map Control.path

theorem Catalog.mem_paths {catalog : Catalog} {family : Family} {control : Control}
    (hfamily : family ∈ catalog.families) (hcontrol : control ∈ family.controls) :
    control.path ∈ catalog.paths :=
  List.mem_flatMap.mpr ⟨family, hfamily, List.mem_map_of_mem hcontrol⟩

namespace Bench

theorem value?_eq_some_iff {bench : Bench} {path text : String} :
    bench.value? path = some text ↔ bench.view.tree.look path = .text text := by
  rw [look_eq_value?]
  cases bench.value? path <;> simp

/-- A text that is put on a node is seen under all spellings of its path, and nowhere else. -/
theorem value?_of_put {bench changed : Bench} {path text : String}
    (hput : changed.view.tree = bench.view.tree.put path text) (other : String) :
    changed.value? other = if Path.Same other path then some text else bench.value? other := by
  have hlook : changed.view.tree.look other =
      if Path.Same other path then .text text else bench.view.tree.look other := by
    rw [hput]
    exact NodeTree.sight_put _ _ _ _
  apply Option.ext
  intro found
  rw [value?_eq_some_iff, hlook]
  by_cases hsame : Path.Same other path
  · simp [hsame]
  · rw [if_neg hsame, if_neg hsame, value?_eq_some_iff]

/-- So it is with the text of an accepted write. -/
theorem value?_writeNode {bench : Bench} {path text : String}
    (haccepted : (bench.writeNode path text).1 = .ok ()) (other : String) :
    (bench.writeNode path text).2.value? other =
      if Path.Same other path then some text else bench.value? other := by
  rcases bench.writeNode_cases path text with hrefused | ⟨-, hview⟩
  · rw [hrefused] at haccepted
    cases haccepted
  · exact value?_of_put (congrArg Scene.tree hview) other

theorem preferences_writeNode (bench : Bench) (path text : String) :
    (bench.writeNode path text).2.preferences = bench.preferences := by
  unfold writeNode
  split <;> rfl

/-- The nodes of the bench have the same texts as the files of a store, and both have the same
preferences saved, in a file that is no node. -/
structure Matches (bench : Bench) (catalog : Catalog) (opening : Opening)
    (store : FileStore FileTree) : Prop where
  nodes : ∀ path ∈ catalog.paths, ∀ text, bench.value? path = some text ↔
    store.files.read (store.nodeFile path) = .ok text.toUTF8
  preferences : store.preferences opening = bench.preferences
  outside : ¬ FileTree.Inside (store.files.lead store.site.nodeRoot)
    (store.files.lead store.site.preferencePath)

/-- Beyond that, a path without a node leads to nothing at all, and the path of the preferences
does not so much as pass through the root of the nodes. -/
structure Corresponds (bench : Bench) (catalog : Catalog) (opening : Opening)
    (store : FileStore FileTree) : Prop extends bench.Matches catalog opening store where
  missing : ∀ path ∈ catalog.paths, bench.value? path = none →
    store.files.find (store.nodeFile path) = .error .noEntry
  apart : FileTree.avoids (store.files.lead store.site.nodeRoot) store.files.workingDirectory
    (Path.components store.site.preferencePath) = true

theorem corresponds_of_find {bench : Bench} {catalog : Catalog} {opening : Opening}
    {store : FileStore FileTree}
    (hfind : ∀ path ∈ catalog.paths, store.files.find (store.nodeFile path) =
      store.files.holding (store.nodeFile path) (bench.value? path))
    (hpreferences : store.preferences opening = bench.preferences)
    (houtside : ¬ FileTree.Inside (store.files.lead store.site.nodeRoot)
      (store.files.lead store.site.preferencePath))
    (hapart : FileTree.avoids (store.files.lead store.site.nodeRoot) store.files.workingDirectory
      (Path.components store.site.preferencePath) = true) :
    bench.Corresponds catalog opening store where
  nodes path hpath := FileTree.read_of_find (hfind path hpath)
  preferences := hpreferences
  outside := houtside
  missing path hpath hnone := by
    rw [hfind path hpath, hnone]
    rfl
  apart := hapart

namespace Corresponds

variable {catalog : Catalog} {opening : Opening} {bench changed : Bench}
  {store after : FileStore FileTree} {path key text : String}
  (corresponds : bench.Corresponds catalog opening store)
include corresponds

theorem find (hpath : path ∈ catalog.paths) : store.files.find (store.nodeFile path) =
    store.files.holding (store.nodeFile path) (bench.value? path) := by
  cases hvalue : bench.value? path with
  | none => exact corresponds.missing path hpath hvalue
  | some text => exact FileTree.find_of_read ((corresponds.nodes path hpath text).mp hvalue)

/-- A change that moves nothing keeps what bench and files have in common, if it keeps it of every
node and of the preferences. -/
theorem of_find (hroot : after.site.nodeRoot = store.site.nodeRoot)
    (hplace : after.site.preferencePath = store.site.preferencePath)
    (hworking : after.files.workingDirectory = store.files.workingDirectory)
    (hfind : ∀ path ∈ catalog.paths, after.files.find (store.nodeFile path) =
      store.files.holding (store.nodeFile path) (changed.value? path))
    (hpreferences : after.preferences opening = changed.preferences) :
    changed.Corresponds catalog opening after := by
  have hlead : ∀ path, after.files.lead path = store.files.lead path := by
    intro path
    unfold FileTree.lead
    rw [hworking]
  refine corresponds_of_find (fun path hpath => ?_) hpreferences ?_ ?_
  · unfold FileStore.nodeFile FileTree.holding at hfind ⊢
    rw [hroot, hlead]
    exact hfind path hpath
  · rw [hlead, hlead, hroot, hplace]
    exact corresponds.outside
  · rw [hlead, hroot, hplace, hworking]
    exact corresponds.apart

theorem looked : bench.Corresponds catalog opening (store.looked opening) := by
  refine corresponds.of_find ?_ ?_ ?_ ?_ ?_
  · simp
  · simp
  · simp
  · simpa using fun path => corresponds.find
  · simpa using corresponds.preferences

section Nodes

variable (hnodes : ∀ path ∈ catalog.paths, Path.IsNode path) (hpath : path ∈ catalog.paths)
include hnodes hpath

omit corresponds in
/-- Two node paths lead to the same place only if they are spellings of one another. -/
theorem lead_ne {other : String} (hother : other ∈ catalog.paths) (hsame : ¬ Path.Same other path) :
    store.files.lead (store.nodeFile other) ≠ store.files.lead (store.nodeFile path) := by
  unfold FileStore.nodeFile
  rw [FileTree.lead_resolve (hnodes other hother), FileTree.lead_resolve (hnodes path hpath)]
  -- Below one root, places are told apart by the names of the path.
  intro hlead
  exact hsame ((hnodes path hpath).same_iff (hnodes other hother) |>.mpr
    (List.append_cancel_left hlead))

omit corresponds in
theorem inside : FileTree.Inside (store.files.lead store.site.nodeRoot)
    (store.files.lead (store.nodeFile path)) := by
  unfold FileStore.nodeFile
  rw [FileTree.lead_resolve (hnodes path hpath)]
  refine ⟨List.prefix_append _ _, fun hroot => ?_⟩
  exact (hnodes path hpath).names_ne_nil (List.append_right_eq_self.mp hroot)

theorem write (hpresent : (bench.value? path).isSome = true)
    (haccepted : (bench.writeNode path text).1 = .ok ()) :
    (bench.writeNode path text).2.Corresponds catalog opening
      (perform (NodeAccess.write path text) store).2 := by
  obtain ⟨old, hold⟩ := Option.isSome_iff_exists.mp hpresent
  have hfind := corresponds.find hpath
  rw [hold] at hfind
  obtain ⟨-, -, -, hfile⟩ := FileTree.find_eq_ok.mp hfind
  have hinside : FileTree.Inside _ (store.files.lead (store.nodeFile path)) := inside hnodes hpath
  have hplace : store.files.lead (store.nodeFile path) ≠ [] := by
    intro hroot
    rw [hroot] at hinside
    exact hinside.2 (List.prefix_nil.mp hinside.1).symm
  rw [FileStore.run_write (hnodes path hpath) hfind]
  refine corresponds.of_find rfl rfl rfl (fun other hother => ?_) ?_
  · rw [value?_writeNode haccepted]
    by_cases hsame : Path.Same other path
    · -- All spellings of a path are the same file.
      have hother : store.nodeFile other = store.nodeFile path := by
        unfold FileStore.nodeFile Path.resolve
        rw [show Path.components other = Path.components path from hsame]
      rw [if_pos hsame, hother, FileTree.find_set_file hplace hfile, hfind]
      simp [FileTree.holding, Except.map]
    · have hlead : store.files.lead (store.nodeFile other) ≠ _ :=
        lead_ne hnodes hpath hother hsame
      rw [if_neg hsame, FileTree.find_set_file_of_ne hplace hfile hlead]
      exact corresponds.find hother
  · -- The file of the preferences is no node, so it holds what it held.
    have hother : store.files.lead store.site.preferencePath ≠
        store.files.lead (store.nodeFile path) := fun hsame => corresponds.outside (hsame ▸ hinside)
    have hkept : fileContent store.site.preferencePath (store.files.set _ (.file text.toUTF8)) =
        fileContent store.site.preferencePath store.files :=
      FileTree.fileContent_of_find (FileTree.find_set_file_of_ne hplace hfile hother)
    rw [store.preferences_of_files _ opening hkept, corresponds.preferences, preferences_writeNode]

theorem save (hpresent : (bench.value? path).isSome = true)
    {value : Int64} (hbench : (bench.save key value).1 = .ok ())
    (hstore : (store.run (Site.save opening key value)).1 = .ok ()) :
    (bench.save key value).2.Corresponds catalog opening
      (store.run (Site.save opening key value)).2 := by
  obtain ⟨old, hold⟩ := Option.isSome_iff_exists.mp hpresent
  have hfind := corresponds.find hpath
  rw [hold] at hfind
  -- The node is there, so the root is, and what is inside it does not change.
  have hreaches : store.files.Reaches store.site.nodeRoot :=
    FileTree.reaches_of_find (hnodes path hpath) hfind
  have hgrown := FileTree.Grown.writePreferences hreaches.directory corresponds.apart
    ((store.preferences opening).insert key value)
  have hpreferences := (store.save_accepted opening hstore).1
  obtain ⟨-, hsaved⟩ := store.run_save_accepted opening hstore
  have haccepted : (bench.save key value).2 =
      { bench with preferences := bench.preferences.insert key value } := by
    unfold Bench.save at hbench ⊢
    split at hbench
    · cases hbench
    · next hsaves => rw [if_neg hsaves]
  rw [haccepted]
  refine corresponds.of_find ?_ ?_ ?_ (fun other hother => ?_) ?_
  · rw [hsaved]
    exact FileStore.looked_nodeRoot store opening
  · rw [hsaved]
    exact FileStore.looked_preferencePath store opening
  · rw [hsaved]
    exact hgrown.workingDirectory
  · rw [hsaved]
    exact (hgrown.find_resolve (hnodes other hother) hreaches).trans (corresponds.find hother)
  · rw [hpreferences, corresponds.preferences]

end Nodes

end Corresponds

/-- Bench and store correspond, and the nodes of some paths are known to be there. -/
structure Linked (catalog : Catalog) (opening : Opening) (known : String → Prop) (bench : Bench)
    (store : FileStore FileTree) : Prop where
  corresponds : bench.Corresponds catalog opening store
  present : ∀ path, known path → (bench.value? path).isSome = true

namespace Linked

variable {catalog : Catalog} {opening : Opening} {known : String → Prop} {path key : String}
  {bench : Bench} {store : FileStore FileTree} (linked : bench.Linked catalog opening known store)
include linked

theorem isPresent (hpath : path ∈ catalog.paths) :
    let asked := perform (NodeAccess.isPresent path) bench
    let asked' := perform (NodeAccess.isPresent path) store
    asked'.1 = asked.1 ∧ asked.2.Linked catalog opening
      (fun found => known found ∨ asked.1 = true ∧ found = path) asked'.2 := by
  rw [FileStore.run_isPresent (linked.corresponds.find hpath)]
  refine ⟨rfl, linked.corresponds, ?_⟩
  rintro found (hknown | ⟨hpresent, rfl⟩)
  · exact linked.present found hknown
  · exact hpresent

theorem read (hpath : path ∈ catalog.paths) :
    let asked := perform (NodeAccess.read path) bench
    let asked' := perform (NodeAccess.read path) store
    asked'.1 = asked.1 ∧ asked.2.Linked catalog opening known asked'.2 := by
  rw [FileStore.run_read (linked.corresponds.find hpath)]
  refine ⟨?_, linked⟩
  show _ = bench.readNode path
  unfold readNode
  cases bench.value? path <;> rfl

theorem saved? (key : String) :
    let asked := perform (PreferenceAccess.saved? opening key) bench
    let asked' := perform (PreferenceAccess.saved? opening key) store
    asked'.1 = asked.1 ∧ asked.2.Linked catalog opening known asked'.2 := by
  have hsaved : perform (PreferenceAccess.saved? opening key) store = _ :=
    store.run_saved? opening key
  rw [hsaved, linked.corresponds.preferences]
  exact ⟨rfl, linked.corresponds.looked, linked.present⟩

variable (hnodes : ∀ path ∈ catalog.paths, Path.IsNode path)
include hnodes

theorem write (hpath : path ∈ catalog.paths) (hknown : known path) {text : String}
    (hbench : (perform (NodeAccess.write path text) bench).1 = .ok ()) :
    (perform (NodeAccess.write path text) bench).2.Linked catalog opening known
      (perform (NodeAccess.write path text) store).2 := by
  refine ⟨linked.corresponds.write hnodes hpath (linked.present path hknown) hbench, ?_⟩
  intro found hfound
  show ((bench.writeNode path text).2.value? found).isSome = true
  rw [value?_writeNode hbench]
  split
  · rfl
  · exact linked.present found hfound

theorem save (hkey : key ∈ catalog.paths) (hknown : known key) {value : Int64}
    (hbench : (perform (PreferenceAccess.save opening key value) bench).1 = .ok ())
    (hstore : (perform (PreferenceAccess.save opening key value) store).1 = .ok ()) :
    (perform (PreferenceAccess.save opening key value) bench).2.Linked catalog opening known
      (perform (PreferenceAccess.save opening key value) store).2 := by
  refine ⟨linked.corresponds.save hnodes hkey (linked.present key hknown) hbench hstore, ?_⟩
  intro found hfound
  show ((bench.save key value).2.value? found).isSome = true
  unfold Bench.save
  split <;> exact linked.present found hfound

end Linked

/-- The bench and the files of a site answer alike, as long as nothing is refused. -/
def interchange {catalog : Catalog} (opening : Opening)
    (hnodes : ∀ path ∈ catalog.paths, Path.IsNode path) :
    Simulation (Watched Bench) (Watched (FileStore FileTree)) where
  calmLeft := Watched.Calm
  calmRight := Watched.Calm
  isNode path := path ∈ catalog.paths
  isOpening used := used = opening
  related known := Watched.Both (Linked catalog opening known)
  forget hfewer linked :=
    ⟨linked.corresponds, fun path hpath => linked.present path (hfewer path hpath)⟩
  isPresent hpath := Watched.mirrors_ask fun _ _ linked => linked.isPresent hpath
  read hpath := Watched.mirrors_ask fun _ _ linked => linked.read hpath
  write _ hpath hknown :=
    Watched.mirrors_attempt fun _ _ linked hbench _ => linked.write hnodes hpath hknown hbench
  saved? key hopening :=
    Watched.mirrors_ask fun _ _ linked => hopening ▸ linked.saved? key
  save _ hopening hkey hknown := Watched.mirrors_attempt fun _ _ linked hbench hstore => by
    obtain rfl := hopening
    exact linked.save hnodes hkey hknown hbench hstore

end Bench

end KernelControls
