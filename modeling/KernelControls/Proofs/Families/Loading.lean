import KernelControls.BootRun
import KernelControls.Proofs.FileTrees.Files
import KernelControls.Proofs.Families.Insertions
import KernelControls.Proofs.Engine.Maintaining

/-!
# Loading settings and definitions

Settings and definition files are looked for and read, and nothing else is done to any file.  A
catalog is loaded only if every definition file of its directory is one: it can be read, it says
what a family is, and the family is well formed.

## Strategy

A property of the files that no look at them breaks is kept by everything that is made of looks.
In a file tree a look changes nothing, so every property is of this kind, also that of being this
very tree.
-/

namespace KernelControls

variable {World : Type} [FileSystem (StateM World)] {holds : World → Prop}

/-- A property of the files that no look at them breaks. -/
structure Inspectable (holds : World → Prop) : Prop where
  isPresent : ∀ path, Maintains holds (FileSystem.isPresent path)
  isFile : ∀ path, Maintains holds (FileSystem.isFile path)
  read : ∀ path, Maintains holds (FileSystem.read path)
  list : ∀ path, Maintains holds (FileSystem.list path)

namespace Inspectable

variable (inspectable : Inspectable holds)
include inspectable

theorem readText (path : String) : Maintains holds (FileSystem.readText path) := by
  refine (inspectable.read path).bind fun result => ?_
  cases result with
  | error cause => exact .pure _
  | ok content =>
      dsimp only
      cases String.fromUTF8? content <;> exact .pure _

/-! ## Settings -/

theorem firstFile (files : List (SettingsFormat × Option String)) :
    Maintains holds (Settings.firstFile files) := by
  induction files with
  | nil => exact .pure _
  | cons file rest ih =>
      obtain ⟨format, _ | path⟩ := file
      · exact ih
      · exact (inspectable.isFile path).bind fun _ => .ite (.pure _) ih

theorem fileLayer (path : String) : Maintains holds (Settings.fileLayer path) := by
  have hfind : Maintains holds (Settings.findFile path) :=
    (inspectable.isFile path).bind fun _ => .ite (.pure _) (inspectable.firstFile _)
  refine hfind.bind fun found => ?_
  cases found with
  | none => exact .pure _
  | some file =>
      refine (inspectable.readText file.2).bind fun result => ?_
      cases result <;> exact .pure _

theorem loadLayered (environment : List (String × String)) (path : String) :
    Maintains holds (Settings.loadLayered environment path) := by
  refine (inspectable.fileLayer path).bind fun layer => ?_
  cases layer with
  | none => exact .pure _
  | some file =>
      dsimp only
      cases Settings.ofLayers? file (.ofEnvironment environment) <;> exact .pure _

theorem loadSettings (environment : List (String × String)) (path : Option String) :
    Maintains holds (Settings.load environment path) := by
  cases path with
  | none =>
      exact (inspectable.isPresent _).bind fun _ =>
        .ite (inspectable.loadLayered _ _) (inspectable.loadLayered _ _)
  | some path =>
      exact (inspectable.isPresent path).bind fun _ => .ite (inspectable.loadLayered _ _) (.pure _)

/-! ## Definitions -/

theorem readDefinition (path : String) : Maintains holds (Catalog.readDefinition path) := by
  refine (inspectable.readText path).bind fun result => ?_
  cases result with
  | error cause => exact .pure _
  | ok text =>
      dsimp only
      cases Family.ofDocument? text <;> exact .pure _

theorem insertDefinitions (catalog : Catalog) (paths : List String) :
    Maintains holds (catalog.insertDefinitions paths) := by
  induction paths generalizing catalog with
  | nil => exact .pure _
  | cons path rest ih =>
      refine (inspectable.readDefinition path).bind fun result => ?_
      cases result with
      | error error => exact .pure _
      | ok family =>
          dsimp only
          cases catalog.insert family with
          | error invalid => exact .pure _
          | ok extended => exact (ih extended).bind fun _ => .pure _

theorem loadCatalog (directory : String) : Maintains holds (Catalog.load directory) := by
  refine (inspectable.isPresent directory).bind fun _ => .ite ?_ (.pure _)
  refine (inspectable.list directory).bind fun result => ?_
  cases result with
  | error cause => exact .pure _
  | ok names => exact inspectable.insertDefinitions _ _

end Inspectable

namespace FileTree

theorem inspectable (holds : FileTree → Prop) : Inspectable holds where
  isPresent _ _ hholds := hholds
  isFile _ _ hholds := hholds
  read _ _ hholds := hholds
  list _ _ hholds := hholds

variable (tree : FileTree)

theorem loadSettings_tree (environment : List (String × String)) (path : Option String) :
    (perform (Settings.load environment path) tree).2 = tree :=
  (inspectable (· = tree)).loadSettings environment path tree rfl

theorem loadCatalog_tree (directory : String) :
    (perform (Catalog.load directory) tree).2 = tree :=
  (inspectable (· = tree)).loadCatalog directory tree rfl

/-! ## Catalogs that could be loaded -/

/-- A definition file: it has a text that says what a well-formed family is. -/
def Defines (path : String) (family : Family) : Prop :=
  ∃ text, (perform (FileSystem.readText path) tree).1 = .ok text ∧
    Family.ofDocument? text = some family ∧ family.WellFormed

variable {tree} {catalog extended : Catalog} {directory : String}

theorem readDefinition_eq_ok {path : String} {family : Family}
    (hread : (perform (Catalog.readDefinition path) tree).1 = .ok family) :
    ∃ text, (perform (FileSystem.readText path) tree).1 = .ok text ∧
      Family.ofDocument? text = some family := by
  unfold Catalog.readDefinition at hread
  rw [perform_bind] at hread
  cases htext : (perform (FileSystem.readText path) tree).1 with
  | error cause => rw [htext] at hread; cases hread
  | ok text =>
      rw [htext] at hread
      dsimp only at hread
      cases hfamily : Family.ofDocument? text with
      | none => rw [hfamily] at hread; cases hread
      | some found =>
          rw [hfamily] at hread
          obtain rfl : found = family := Except.ok.inj hread
          exact ⟨text, rfl, hfamily⟩

/-- Definition files are inserted only if each of them is one. -/
theorem defines_of_insertDefinitions {paths : List String}
    (hloaded : (perform (catalog.insertDefinitions paths) tree).1.2 = .ok extended) :
    ∀ path ∈ paths, ∃ family, tree.Defines path family := by
  induction paths generalizing catalog with
  | nil => exact fun _ hpath => absurd hpath List.not_mem_nil
  | cons path rest ih =>
      have hsame : (perform (Catalog.readDefinition path) tree).2 = tree :=
        (inspectable (· = tree)).readDefinition path tree rfl
      obtain ⟨family, next, hread, hinsert, hrest⟩ := Catalog.insertDefinitions_cons hloaded
      obtain ⟨text, htext, hfamily⟩ := readDefinition_eq_ok hread
      have hformed := (Catalog.insert_eq_ok_iff.mp hinsert).1
      -- The other files are read in the same tree.
      rw [hsame] at hrest
      exact List.forall_mem_cons.mpr ⟨⟨family, text, htext, hfamily, hformed⟩, ih hrest⟩

/-- A catalog is loaded only if its directory is absent, or can be listed and every definition file
in it is one. -/
theorem defines_of_load
    (hloaded : (perform (Catalog.load directory) tree).1.2 = .ok catalog)
    (hpresent : tree.isPresent directory = true) :
    ∃ names, tree.list directory = .ok names ∧ ∀ name ∈ Catalog.definitionNames names,
      ∃ family, tree.Defines (Path.join directory name) family := by
  rcases Catalog.load_cases hloaded with ⟨habsent, -⟩ | ⟨names, hlist, hinserted⟩
  · cases hpresent.symm.trans habsent
  · refine ⟨names, hlist, fun name hname => ?_⟩
    exact defines_of_insertDefinitions hinserted _ (List.mem_map_of_mem hname)

end FileTree

end KernelControls
