import KernelControls.Proofs.FileTrees.Directories
import KernelControls.Proofs.Stores.FileStore

/-!
# Files that are kept

Putting preferences in place may be refused at any stage: while the directories are made, while
the new file is prepared, or when it is to take its place.  A file is kept if none of this changes
what its path leads to.

## Strategy

`KeepsFile` says what is needed of the files for one path; it is closed under refusals
(`Faulty.keepsFile`), because a refusal changes nothing that the files themselves would not.  File
trees keep the file at every path without a `..`: new directories bring nothing to light there, as
`Widened` says, and what is refused its place changes nothing.  For `missing/../file` this is
different, since it leads to a file as soon as `missing` is made.
-/

namespace KernelControls

/-! ## The file -/

section File

variable {Files : Type} [FileSystem (StateM Files)]

/-- The bytes of the file that a path leads to, if it leads to a file that can be read. -/
def fileContent (path : String) (files : Files) : Option ByteArray :=
  if (perform (FileSystem.isPresent path) files).1 then
    (perform (FileSystem.read path) files).1.toOption
  else none

/-- The preferences that a file holds; one that is not there or cannot be used holds none. -/
def Preferences.ofContent (content : Option ByteArray) : Preferences :=
  ((content.bind String.fromUTF8?).bind Preferences.ofDocument?).getD .empty

namespace FileStore

variable [LawfulFiles Files] (store : FileStore Files)

theorem held_eq_ofContent : store.held.toOption.getD .empty =
    .ofContent (fileContent store.site.preferencePath store.files) := by
  unfold held fileContent
  rw [PreferenceFile.read_run, LawfulFiles.readText_run]
  cases (perform (FileSystem.isPresent store.site.preferencePath) store.files).1 with
  | false => rfl
  | true =>
      simp only [if_true]
      cases (perform (FileSystem.read store.site.preferencePath) store.files).1 with
      | error cause => rfl
      | ok content =>
          show (PreferenceFile.ofText _).toOption.getD .empty =
            ((String.fromUTF8? content).bind Preferences.ofDocument?).getD .empty
          simp only [Except.bind]
          cases String.fromUTF8? content with
          | none => rfl
          | some text =>
              simp only [PreferenceFile.ofText, Option.bind_some]
              cases Preferences.ofDocument? text <;> rfl

/-- What an opening sees depends on the files only through the content of one file. -/
theorem preferences_of_files (files : Files) (opening : Opening)
    (hcontent : fileContent store.site.preferencePath files =
      fileContent store.site.preferencePath store.files) :
    FileStore.preferences { store with files := files } opening = store.preferences opening := by
  unfold preferences
  cases store.site.knowledge opening with
  | some known => rfl
  | none =>
      show (FileStore.held { store with files := files }).toOption.getD .empty =
        store.held.toOption.getD .empty
      rw [held_eq_ofContent, held_eq_ofContent, hcontent]

end FileStore

/-- Files that keep the file at a path until another one is put in its place.  The files may be
in any state that is `Sound`. -/
structure KeepsFile (path : String) (Sound : Files → Prop) : Prop where
  sound_made : ∀ files, Sound files →
    Sound (perform (FileSystem.makeDirectories (PreferenceFile.directory path)) files).2
  sound_replaced : ∀ text files, Sound files →
    Sound (perform (FileSystem.replace (PreferenceFile.directory path) path text) files).2
  /-- Making the directories above the file, or some of them, leaves the file as it is. -/
  made : ∀ files, Sound files → fileContent path
    (perform (FileSystem.makeDirectories (PreferenceFile.directory path)) files).2 =
      fileContent path files
  /-- What is not put in place as a whole is not put there at all. -/
  refused : ∀ text files error, Sound files →
    (perform (FileSystem.replace (PreferenceFile.directory path) path text) files).1 =
      .error error →
    fileContent path
      (perform (FileSystem.replace (PreferenceFile.directory path) path text) files).2 =
        fileContent path files

namespace KeepsFile

variable {path : String} {Sound : Files → Prop} {files : Files} (keeps : KeepsFile path Sound)
include keeps

theorem sound_written (hsound : Sound files) (preferences : Preferences) :
    Sound (perform (PreferenceFile.write path preferences) files).2 := by
  have hmade := keeps.sound_made files hsound
  rcases PreferenceFile.write_cases path preferences files with
    ⟨_, hwrite⟩ | ⟨_, _, -, hwrite⟩ | ⟨-, hwrite⟩
  · rw [hwrite]; exact hmade
  · rw [hwrite]; exact keeps.sound_replaced _ _ hmade
  · rw [hwrite]; exact keeps.sound_replaced _ _ hmade

theorem write_refused (hsound : Sound files) {preferences : Preferences} {error : PreferenceError}
    (hrefused : (perform (PreferenceFile.write path preferences) files).1 = .error error) :
    fileContent path (perform (PreferenceFile.write path preferences) files).2 =
      fileContent path files := by
  have hmade := keeps.made files hsound
  rcases PreferenceFile.write_cases path preferences files with
    ⟨_, hwrite⟩ | ⟨_, _, hplaced, hwrite⟩ | ⟨-, hwrite⟩
  · rw [hwrite]; exact hmade
  · rw [hwrite]
    exact (keeps.refused _ _ _ (keeps.sound_made files hsound) hplaced).trans hmade
  · rw [hwrite] at hrefused
    cases hrefused

end KeepsFile

end File

namespace FileTree

theorem fileContent_eq_some {path : String} {tree : FileTree} {content : ByteArray} :
    fileContent path tree = some content ↔ tree.read path = .ok content := by
  show (if tree.isPresent path then (tree.read path).toOption else none) = some content ↔ _
  cases hread : tree.read path with
  | error cause => simp [Except.toOption]
  | ok found =>
      obtain ⟨location, hfind⟩ := read_eq_ok.mp hread
      have hpresent : tree.isPresent path = true := by
        unfold isPresent
        rw [hfind]
        rfl
      simp [hpresent, Except.toOption]

theorem Widened.fileContent {before after : FileTree} (widened : before.Widened after)
    {path : String} (hdown : ".." ∉ Path.pieces path) :
    fileContent path after = fileContent path before := by
  apply Option.ext
  intro content
  rw [fileContent_eq_some, fileContent_eq_some]
  exact widened.read path content hdown

/-- A rooted tree keeps the file at every path that never steps back. -/
theorem keepsFile {path : String} (hdown : ".." ∉ Path.pieces path) : KeepsFile path Rooted where
  sound_made tree hrooted := (widened_makeDirectories hrooted _).rooted
  sound_replaced text tree hrooted := by
    show (tree.replaceFrom (PreferenceFile.directory path) path text).2.Rooted
    rcases tree.replaceFrom_cases (PreferenceFile.directory path) path text with
      ⟨error, hrefused⟩ | ⟨changed, hreplace, haccepted⟩
    · rwa [hrefused]
    · rw [haccepted]; exact hrooted.replace hreplace
  made tree hrooted := (widened_makeDirectories hrooted _).fileContent hdown
  refused text tree error _ hrefused := by
    rcases tree.replaceFrom_cases (PreferenceFile.directory path) path text with
      ⟨_, hsame⟩ | ⟨changed, -, haccepted⟩
    · show fileContent path (tree.replaceFrom (PreferenceFile.directory path) path text).2 = _
      rw [hsame]
    · cases hrefused.symm.trans (congrArg Prod.fst haccepted)

end FileTree

/-! ## Files that refuse -/

/-- A stage at which putting a file in place can be refused. -/
inductive Stage where
  | directories
  | preparing
  | placing
  deriving DecidableEq

/-- Files with a script of refusals.  Each attempt to put a file in place takes one entry, and
when there are no more, nothing is refused. -/
structure Faulty (Files : Type) where
  script : List (Option Stage)
  files : Files

namespace Faulty

variable {Files : Type}

/-- The stage at which the next attempt is refused. -/
def refusal? (faulty : Faulty Files) : Option Stage :=
  faulty.script.head?.join

/-- The files as they are, after an attempt. -/
def attempted (faulty : Faulty Files) (files : Files) : Faulty Files :=
  ⟨faulty.script.tail, files⟩

/-- Ask the files themselves. -/
def lift {Value : Type} (action : StateM Files Value) : StateM (Faulty Files) Value := fun faulty =>
  let done := perform action faulty.files
  (done.1, { faulty with files := done.2 })

variable [FileSystem (StateM Files)]

/-- Make directories.  What was made before a refusal stays. -/
def makeDirectories (path : String) : StateM (Faulty Files) (Except OsError Unit) := fun faulty =>
  let made := perform (FileSystem.makeDirectories path) faulty.files
  if faulty.refusal? = some .directories then
    (.error .permissionDenied, faulty.attempted made.2)
  else (made.1, { faulty with files := made.2 })

/-- Put a file in its place. -/
def replace (directory path text : String) : StateM (Faulty Files) (Except ReplaceError Unit) :=
  fun faulty =>
    match faulty.refusal? with
    | some .preparing => (.error (.preparing .permissionDenied), faulty.attempted faulty.files)
    | some .placing => (.error (.placing .permissionDenied), faulty.attempted faulty.files)
    | _ =>
      let placed := perform (FileSystem.replace directory path text) faulty.files
      (placed.1, faulty.attempted placed.2)

instance : FileSystem (StateM (Faulty Files)) where
  isPresent path := lift (FileSystem.isPresent path)
  isFile path := lift (FileSystem.isFile path)
  read path := lift (FileSystem.read path)
  list path := lift (FileSystem.list path)
  write path text := lift (FileSystem.write path text)
  makeDirectories := makeDirectories
  replace := replace

theorem makeDirectories_files (path : String) (faulty : Faulty Files) :
    (perform (FileSystem.makeDirectories path) faulty).2.files =
      (perform (FileSystem.makeDirectories path) faulty.files).2 := by
  show (makeDirectories path faulty).2.files = _
  unfold makeDirectories
  split <;> rfl

/-- A file is refused its place and nothing changes, or the files are asked. -/
theorem replace_cases (directory path text : String) (faulty : Faulty Files) :
    let placed := perform (FileSystem.replace directory path text) faulty.files
    (∃ error, perform (FileSystem.replace directory path text) faulty =
      (.error error, faulty.attempted faulty.files)) ∨
    perform (FileSystem.replace directory path text) faulty =
      (placed.1, faulty.attempted placed.2) := by
  intro placed
  show (∃ error, replace directory path text faulty = _) ∨ replace directory path text faulty = _
  unfold replace
  split
  · exact .inl ⟨_, rfl⟩
  · exact .inl ⟨_, rfl⟩
  · exact .inr rfl

instance [LawfulFiles Files] : LawfulFiles (Faulty Files) where
  isPresent_world path faulty :=
    congrArg (Faulty.mk faulty.script) (LawfulFiles.isPresent_world path faulty.files)
  read_world path faulty :=
    congrArg (Faulty.mk faulty.script) (LawfulFiles.read_world path faulty.files)
  isPresent_replaced directory path text faulty haccepted := by
    rcases faulty.replace_cases directory path text with ⟨_, hrefused⟩ | hplaced
    · rw [hrefused] at haccepted; cases haccepted
    · rw [hplaced] at haccepted ⊢
      exact LawfulFiles.isPresent_replaced directory path text faulty.files haccepted
  read_replaced directory path text faulty haccepted := by
    rcases faulty.replace_cases directory path text with ⟨_, hrefused⟩ | hplaced
    · rw [hrefused] at haccepted; cases haccepted
    · rw [hplaced] at haccepted ⊢
      exact LawfulFiles.read_replaced directory path text faulty.files haccepted

/-- Refusals take nothing from a file. -/
theorem keepsFile {path : String} {Sound : Files → Prop} (keeps : KeepsFile path Sound) :
    KeepsFile path fun faulty : Faulty Files => Sound faulty.files where
  sound_made faulty hsound := by
    rw [makeDirectories_files]
    exact keeps.sound_made faulty.files hsound
  sound_replaced text faulty hsound := by
    rcases faulty.replace_cases (PreferenceFile.directory path) path text with
      ⟨_, hrefused⟩ | hplaced
    · rw [hrefused]; exact hsound
    · rw [hplaced]; exact keeps.sound_replaced text faulty.files hsound
  made faulty hsound := by
    show fileContent path (perform (FileSystem.makeDirectories _) faulty).2.files = _
    rw [makeDirectories_files]
    exact keeps.made faulty.files hsound
  refused text faulty error hsound herror := by
    rcases faulty.replace_cases (PreferenceFile.directory path) path text with
      ⟨_, hrefused⟩ | hplaced
    · rw [hrefused]; rfl
    · rw [hplaced] at herror ⊢
      exact keeps.refused text faulty.files error hsound herror

end Faulty

end KernelControls
