import KernelControls.Proofs.Stores.Mishaps

/-!
# A preference file beside the nodes

On a machine nodes and preferences are files of one tree, and nothing keeps a site from having its
preference file in the place of a node.  As long as it is in no such place, writing nodes spares it:
the preferences are in safekeeping.

## Strategy

A path leads to one place, whatever the tree is (`location_of_find`), so a write elsewhere changes
no file that another path leads to, also where it makes a new file (`fileContent_write`).  Nothing
is asked of the path of the preferences: a saving that is refused half way may well bring another
file to light under it, but an opening that has read the file once does not look at it again.
-/

namespace KernelControls

/-! ## Files that are spared -/

/-- Files in which writing elsewhere spares the file at a path.  The files may be in any state that
is `Sound`. -/
structure SparesFile {Files : Type} [FileSystem (StateM Files)] (path : String)
    (isElsewhere : String → Prop) (Sound : Files → Prop) : Prop where
  sound_made : Maintains Sound (FileSystem.makeDirectories (PreferenceFile.directory path))
  sound_replaced : ∀ text,
    Maintains Sound (FileSystem.replace (PreferenceFile.directory path) path text)
  sound_written : ∀ other text, Maintains Sound (FileSystem.write other text)
  written : ∀ other text files, Sound files → isElsewhere other →
    fileContent path (perform (FileSystem.write other text) files).2 = fileContent path files

theorem SparesFile.sound_put {Files : Type} [FileSystem (StateM Files)] {path : String}
    {isElsewhere : String → Prop} {Sound : Files → Prop}
    (spares : SparesFile path isElsewhere Sound) (preferences : Preferences) :
    Maintains Sound (PreferenceFile.write path preferences) := by
  intro files hsound
  have hmade := spares.sound_made files hsound
  rcases PreferenceFile.write_cases path preferences files with
    ⟨_, hwrite⟩ | ⟨_, _, -, hwrite⟩ | ⟨-, hwrite⟩
  · rw [hwrite]; exact hmade
  · rw [hwrite]; exact spares.sound_replaced _ _ hmade
  · rw [hwrite]; exact spares.sound_replaced _ _ hmade

theorem Faulty.sparesFile {Files : Type} [FileSystem (StateM Files)] {path : String}
    {isElsewhere : String → Prop} {Sound : Files → Prop}
    (spares : SparesFile path isElsewhere Sound) :
    SparesFile path isElsewhere fun faulty : Faulty Files => Sound faulty.files where
  sound_made faulty hsound := by
    show Sound (perform (FileSystem.makeDirectories _) faulty).2.files
    rw [makeDirectories_files]
    exact spares.sound_made faulty.files hsound
  sound_replaced text faulty hsound := by
    rcases faulty.replace_cases (PreferenceFile.directory path) path text with
      ⟨_, hrefused⟩ | hplaced
    · rw [hrefused]; exact hsound
    · rw [hplaced]; exact spares.sound_replaced text faulty.files hsound
  sound_written other text faulty := spares.sound_written other text faulty.files
  written other text faulty := spares.written other text faulty.files

/-! ## Trees spare what is elsewhere -/

namespace FileTree

variable {tree changed : FileTree} {location next place : Location} {content : ByteArray}
  {path other : String}

/-- A walk in a tree in which a file was put was possible before: it did not enter the file. -/
theorem walk_of_set_file {pieces : List String} (hroot : place ≠ [])
    (hwalk : (tree.set place (.file content)).walk location pieces = .ok next) :
    tree.walk location pieces = .ok next := by
  induction pieces generalizing location with
  | nil => exact hwalk
  | cons piece rest ih =>
      obtain ⟨middle, henter, hrest⟩ := walk_cons_eq_ok.mp hwalk
      have hdirectory := directory_of_enter henter
      rw [entryAt?_set _ _ _ _ hroot] at hdirectory
      -- A file cannot be entered, so the walk was not at the new one.
      have hother : location ≠ place := by
        intro hsame
        rw [if_pos hsame] at hdirectory
        cases hdirectory
      rw [enter_set_of_ne hroot hother] at henter
      exact walk_cons_eq_ok.mpr ⟨middle, henter, ih hrest⟩

/-- A file that is put where a path does not lead changes nothing of what the path leads to. -/
theorem read_set_file (hroot : place ≠ []) (hplace : tree.entryAt? place ≠ some .directory)
    (hother : tree.lead path ≠ place) {held : ByteArray} :
    (tree.set place (.file content)).read path = .ok held ↔ tree.read path = .ok held := by
  rw [read_eq_ok, read_eq_ok]
  constructor
  · rintro ⟨location, hfind⟩
    have helsewhere : location ≠ place := location_of_find hfind ▸ hother
    obtain ⟨first, hstart, hwalk, hentry⟩ := find_eq_ok.mp hfind
    rw [entryAt?_set _ _ _ _ hroot, if_neg helsewhere] at hentry
    exact ⟨location, find_eq_ok.mpr ⟨first, hstart, walk_of_set_file hroot hwalk, hentry⟩⟩
  · rintro ⟨location, hfind⟩
    have helsewhere : location ≠ place := location_of_find hfind ▸ hother
    obtain ⟨first, hstart, hwalk, hentry⟩ := find_eq_ok.mp hfind
    refine ⟨location, find_eq_ok.mpr ⟨first, hstart, walk_set hroot hplace hwalk, ?_⟩⟩
    rw [entryAt?_set _ _ _ _ hroot, if_neg helsewhere]
    exact hentry

/-- A write puts a file where its path leads, and never in the place of a directory. -/
theorem write_eq_ok (hwrite : tree.write other content = .ok changed) :
    tree.lead other ≠ [] ∧ tree.entryAt? (tree.lead other) ≠ some .directory ∧
      changed = tree.set (tree.lead other) (.file content) := by
  unfold write at hwrite
  rcases htarget : tree.target other with cause | ⟨_ | place, _ | _⟩
  · rw [htarget] at hwrite; cases hwrite
  · rw [htarget] at hwrite; cases hwrite
  · rw [htarget] at hwrite; cases hwrite
  · rw [htarget] at hwrite
    have hroot := ne_nil_of_target htarget
    obtain rfl := place_of_target htarget
    simp only [Bind.bind, Except.bind] at hwrite
    split at hwrite
    · cases hwrite
    · next hplace => exact ⟨hroot, hplace, (Except.ok.inj hwrite).symm⟩
  · rw [htarget] at hwrite; cases hwrite

theorem fileContent_write (hother : tree.lead path ≠ tree.lead other) (text : String) :
    fileContent path (perform (FileSystem.write other text) tree).2 = fileContent path tree := by
  show fileContent path (tree.settle (tree.write other text.toUTF8)).2 = _
  cases hwrite : tree.write other text.toUTF8 with
  | error cause => rfl
  | ok changed =>
      obtain ⟨hroot, hplace, rfl⟩ := write_eq_ok hwrite
      apply Option.ext
      intro held
      rw [fileContent_eq_some, fileContent_eq_some]
      exact read_set_file hroot hplace hother

/-! ### The working directory stays -/

/-- The tree works in a directory. -/
def WorksIn (working : Location) (tree : FileTree) : Prop :=
  tree.workingDirectory = working

variable {working : Location}

theorem worksIn_makeDirectory (hworks : tree.WorksIn working)
    (hmade : tree.makeDirectory path = .ok changed) : changed.WorksIn working := by
  obtain ⟨place, slash, -, -, rfl⟩ := makeDirectory_eq_ok hmade
  exact hworks

theorem worksIn_makeDirectories (hworks : tree.WorksIn working)
    (components : List Path.Component) : (tree.makeDirectories components).2.WorksIn working :=
  makeDirectories_keeps List.prefix_rfl (fun _ _ => worksIn_makeDirectory) hworks

theorem worksIn_replaceFrom (hworks : tree.WorksIn working) (directory text : String) :
    (tree.replaceFrom directory path text).2.WorksIn working := by
  rcases tree.replaceFrom_cases directory path text with
    ⟨error, hrefused⟩ | ⟨replaced, hreplace, haccepted⟩
  · rw [hrefused]
    exact hworks
  obtain ⟨place, -, -, rfl⟩ := replace_eq_ok hreplace
  rw [haccepted]
  exact hworks

theorem worksIn_write (hworks : tree.WorksIn working) (text : String) :
    (perform (FileSystem.write other text) tree).2.WorksIn working := by
  show (tree.settle (tree.write other text.toUTF8)).2.WorksIn working
  cases hwrite : tree.write other text.toUTF8 with
  | error cause => exact hworks
  | ok changed =>
      obtain ⟨-, -, rfl⟩ := write_eq_ok hwrite
      exact hworks

/-- Whether two paths lead to different places from a working directory. -/
def Apart (working : Location) (path other : String) : Prop :=
  Path.follow working (Path.components path) ≠ Path.follow working (Path.components other)

instance (working : Location) (path other : String) : Decidable (Apart working path other) :=
  inferInstanceAs (Decidable (_ ≠ _))

/-- A tree spares the file at a path from writes at every path that leads elsewhere. -/
theorem sparesFile (working : Location) (path : String) :
    SparesFile path (Apart working path) (WorksIn working) where
  sound_made _ hworks := worksIn_makeDirectories hworks _
  sound_replaced text _ hworks := worksIn_replaceFrom hworks _ text
  sound_written _ text _ hworks := worksIn_write hworks text
  written other text tree hworks hapart := by
    subst hworks
    exact fileContent_write hapart text

end FileTree

/-! ## Sites in safekeeping -/

namespace FileStore

variable {Files : Type} [FileSystem (StateM Files)]

section Nodes

variable [LawfulFiles Files]

theorem run_nodeIsPresent (path : String) (store : FileStore Files) :
    (perform (NodeAccess.isPresent path) store).2 = store :=
  congrArg (FileStore.mk store.site) (LawfulFiles.isPresent_world _ store.files)

theorem run_nodeRead (path : String) (store : FileStore Files) :
    (perform (NodeAccess.read path) store).2 = store :=
  congrArg (FileStore.mk store.site) (LawfulFiles.readText_world (store.nodeFile path) store.files)

end Nodes

variable {root path : String} {isElsewhere : String → Prop} {Sound : Files → Prop}
  {opening : Opening}

/-- A store at its site, with an opening that was made, and with sound files. -/
structure IsAt (root path : String) (Sound : Files → Prop) (opening : Opening)
    (store : FileStore Files) : Prop where
  nodeRoot : store.site.nodeRoot = root
  preferencePath : store.site.preferencePath = path
  opened : opening < store.site.openings.length
  files : Sound store.files

/-- What a store keeps: what an opening sees, and the file. -/
def keptBy (opening : Opening) (store : FileStore Files) : Kept :=
  ⟨(store.preferences opening).get?, fileContent store.site.preferencePath store.files⟩

@[simp] theorem openings_looked (store : FileStore Files) (other : Opening) :
    (store.looked other).site.openings.length = store.site.openings.length := by
  rcases store.looked_cases other with hsame | ⟨-, hlooked⟩
  · rw [hsame]
  · rw [hlooked]
    exact List.length_set

theorem IsAt.looked {store : FileStore Files} (isAt : store.IsAt root path Sound opening)
    (other : Opening) : (store.looked other).IsAt root path Sound opening where
  nodeRoot := (store.looked_nodeRoot other).trans isAt.nodeRoot
  preferencePath := (store.looked_preferencePath other).trans isAt.preferencePath
  opened := (store.openings_looked other).symm ▸ isAt.opened
  files := (store.looked_files other).symm ▸ isAt.files

@[simp] theorem keptBy_looked (store : FileStore Files) (other : Opening) :
    (store.looked other).keptBy opening = store.keptBy opening := by
  unfold keptBy
  rw [preferences_looked, looked_files, looked_preferencePath]

/-- An opening that was made knows what it sees once it had to look. -/
theorem knowledge_looked {store : FileStore Files}
    (hopened : opening < store.site.openings.length) :
    ∃ known, (store.looked opening).site.knowledge opening = some known := by
  unfold FileStore.looked
  cases hknown : store.site.knowledge opening with
  | some known => exact ⟨known, hknown⟩
  | none => exact ⟨store.held, (store.site.knowledge_learn _ _ _).trans (if_pos ⟨rfl, hopened⟩)⟩

/-- A refused saving leaves an opening what it saw, whatever became of the files. -/
theorem preferences_refused {store : FileStore Files}
    (hopened : opening < store.site.openings.length) (files : Files) :
    FileStore.preferences { store.looked opening with files := files } opening =
      store.preferences opening := by
  obtain ⟨known, hknown⟩ := knowledge_looked hopened
  rw [← store.preferences_looked opening opening]
  unfold FileStore.preferences
  rw [hknown]
  rfl

variable [LawfulFiles Files]

/-- The preferences of a site are in safekeeping, as long as their file is the file of no node. -/
def safekeeping (root : String) (spares : SparesFile path isElsewhere Sound) (opening : Opening) :
    Safekeeping (FileStore Files) where
  opening := opening
  isNode node := isElsewhere (Path.resolve root node)
  Sound := IsAt root path Sound opening
  kept := keptBy opening
  harmless known :=
    { isPresent := by
        intro node store hholds
        rw [run_nodeIsPresent]
        exact hholds
      read := by
        intro node store hholds
        rw [run_nodeRead]
        exact hholds
      saved? := by
        rintro other key store ⟨isAt, hkept⟩
        show IsAt root path Sound opening (store.run (PreferenceAccess.saved? other key)).2 ∧
          keptBy opening (store.run (PreferenceAccess.saved? other key)).2 = known
        rw [run_saved?]
        exact ⟨isAt.looked other, (store.keptBy_looked other).trans hkept⟩
      write := by
        rintro node text hnode store ⟨isAt, hkept⟩
        have hspared : fileContent store.site.preferencePath
            (perform (FileSystem.write (store.nodeFile node) text) store.files).2 =
              fileContent store.site.preferencePath store.files := by
          unfold nodeFile
          rw [isAt.preferencePath, isAt.nodeRoot]
          exact spares.written _ _ _ isAt.files hnode
        rw [write_node]
        refine ⟨⟨isAt.nodeRoot, isAt.preferencePath, isAt.opened,
          spares.sound_written _ _ _ isAt.files⟩, ?_⟩
        rw [← hkept]
        unfold keptBy
        rw [preferences_of_files store _ opening hspared, hspared] }
  answer key store _ := congrArg Prod.fst (store.run_saved? opening key)
  sound_save key value store isAt := by
    have hlooked := isAt.looked opening
    -- Accepted or refused, a put leaves the files sound.
    have hput : ∀ preferences, Sound
        (perform (PreferenceFile.write store.site.preferencePath preferences) store.files).2 := by
      rw [isAt.preferencePath]
      exact fun preferences => spares.sound_put preferences _ isAt.files
    show IsAt root path Sound opening (store.run (Site.save opening key value)).2
    rw [run_save]
    dsimp only
    split
    · exact ⟨hlooked.nodeRoot, hlooked.preferencePath, hlooked.opened, hput _⟩
    · exact ⟨hlooked.nodeRoot, hlooked.preferencePath,
        List.length_set.symm ▸ hlooked.opened, hput _⟩
  save_accepted key value store _ haccepted := by
    funext other
    show ((store.run (Site.save opening key value)).2.preferences opening).get? other = _
    rw [(store.save_accepted opening haccepted).1, Preferences.get?_insert, Function.update_apply]
    rfl
  save_refused key value error store isAt herror := by
    have hrun := store.run_save opening key value
    replace herror : (store.run (Site.save opening key value)).1 = .error error := herror
    show ((store.run (Site.save opening key value)).2.preferences opening).get? = _
    dsimp only at hrun
    split at hrun
    · rw [hrun, preferences_refused isAt.opened]
      rfl
    · rw [hrun] at herror
      cases herror

end FileStore

end KernelControls
