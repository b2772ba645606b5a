import KernelControls.Proofs.Backends.Lawful
import KernelControls.Proofs.FileTrees.Files
import KernelControls.Proofs.Documents.Preferences
import KernelControls.Site

/-!
# The store of preferences in a file

A site reads its preference file once for each opening and puts it in place anew with every value
that is saved.  As a store it keeps its word: what an opening sees are the values it read plus the
values that were saved through it.  An accepted saving leaves all of them in the file, so an
opening that comes later sees the same values.

## Strategy

What an opening sees is what it knows, or else what the file holds: `FileStore.preferences`.
Reading the file only turns the second into the first, so no question changes what is seen.
Saving is one equation, `run_save`; the rest follows from `read_written`, which says that a
preference file that was put in place is read back.
-/

namespace KernelControls

/-! ## Preference files -/

namespace PreferenceFile

variable {Files : Type} [FileSystem (StateM Files)] [LawfulFiles Files]

/-- What a preference file says, if it could be read. -/
def ofText : Except OsError String → Except FileTrouble Preferences
  | .error cause => .error (.io cause)
  | .ok text =>
    match Preferences.ofDocument? text with
    | none => .error .malformed
    | some preferences => .ok preferences

theorem read_run (path : String) (files : Files) : perform (read path) files =
    (if (perform (FileSystem.isPresent path) files).1 then
        ofText (perform (FileSystem.readText path) files).1
      else .ok .empty, files) := by
  unfold read
  rw [perform_bind, LawfulFiles.isPresent_world]
  cases (perform (FileSystem.isPresent path) files).1 with
  | false => rfl
  | true =>
      simp only [if_true]
      rw [perform_bind, LawfulFiles.readText_world]
      cases (perform (FileSystem.readText path) files).1 with
      | error cause => rfl
      | ok text =>
          simp only [ofText]
          cases Preferences.ofDocument? text <;> rfl

theorem read_files (path : String) (files : Files) : (perform (read path) files).2 = files := by
  rw [read_run]

omit [LawfulFiles Files] in
/-- What becomes of a preference file: it is refused before anything could take its place, it is
refused its place, or it is put there. -/
theorem write_cases (path : String) (preferences : Preferences) (files : Files) :
    let made := perform (FileSystem.makeDirectories (directory path)) files
    let placed := perform (FileSystem.replace (directory path) path preferences.document) made.2
    (∃ error, perform (write path preferences) files = (.error error, made.2)) ∨
    (∃ error cause, placed.1 = .error cause ∧
      perform (write path preferences) files = (.error error, placed.2)) ∨
    (placed.1 = .ok () ∧ perform (write path preferences) files = (.ok (), placed.2)) := by
  intro made placed
  unfold write
  rw [perform_bind]
  cases made.1 with
  | error cause => exact .inl ⟨.io cause, rfl⟩
  | ok done =>
      dsimp only
      rw [perform_bind]
      cases placed.1 with
      | error refused =>
          cases refused with
          | preparing cause => exact .inr (.inl ⟨_, _, rfl, rfl⟩)
          | placing cause => exact .inr (.inl ⟨_, _, rfl, rfl⟩)
      | ok done => exact .inr (.inr ⟨rfl, rfl⟩)

theorem read_written {path : String} {preferences : Preferences} {files : Files}
    (haccepted : (perform (write path preferences) files).1 = .ok ()) :
    (perform (read path) (perform (write path preferences) files).2).1 = .ok preferences := by
  rcases write_cases path preferences files with ⟨_, hwrite⟩ | ⟨_, _, -, hwrite⟩ | ⟨hplaced, hwrite⟩
  · rw [hwrite] at haccepted; cases haccepted
  · rw [hwrite] at haccepted; cases haccepted
  · rw [hwrite, read_run, LawfulFiles.isPresent_replaced _ _ _ _ hplaced, if_pos rfl,
      LawfulFiles.readText_replaced path _ hplaced]
    simp only [ofText, preferences.ofDocument?_document]

end PreferenceFile

/-! ## What a site knows -/

namespace Site

theorem knowledge_learn (site : Site) (opening other : Opening)
    (known : Except FileTrouble Preferences) : (site.learn opening known).knowledge other =
      if other = opening ∧ opening < site.openings.length then some known
      else site.knowledge other := by
  unfold knowledge learn
  rw [List.getElem?_set]
  by_cases hsame : opening = other
  · subst hsame
    by_cases hthere : opening < site.openings.length
    · simp [hthere]
    · simp [hthere]
  · rw [if_neg hsame, if_neg fun h => hsame h.1.symm]

theorem knowledge_of_le {site : Site} {opening : Opening}
    (hclosed : site.openings.length ≤ opening) : site.knowledge opening = none := by
  unfold knowledge
  rw [List.getElem?_eq_none hclosed]
  rfl

end Site

/-! ## The store -/

/-- A site beside the files that hold its preferences. -/
structure FileStore (Files : Type) where
  site : Site
  files : Files

namespace FileStore

section Run

variable {Files Value Other : Type} (store : FileStore Files)

/-- Work on a site and its files. -/
def run (action : StateT Site (StateM Files) Value) : Value × FileStore Files :=
  let done := perform (action store.site) store.files
  (done.1.1, ⟨done.1.2, done.2⟩)

theorem run_bind (action : StateT Site (StateM Files) Value)
    (rest : Value → StateT Site (StateM Files) Other) :
    store.run (action >>= rest) = (store.run action).2.run (rest (store.run action).1) := rfl

@[simp] theorem run_get : store.run get = (store.site, store) := rfl

theorem run_liftM (action : StateM Files Value) : store.run (liftM action) =
    ((perform action store.files).1, { store with files := (perform action store.files).2 }) := rfl

end Run

variable {Files : Type} [FileSystem (StateM Files)]

instance : PreferenceAccess (StateM (FileStore Files)) where
  saved? opening key := fun store => store.run (PreferenceAccess.saved? opening key)
  save opening key value := fun store => store.run (PreferenceAccess.save opening key value)

variable (store : FileStore Files) (opening other : Opening)

/-- What reading the preference file gives. -/
def held : Except FileTrouble Preferences :=
  (perform (PreferenceFile.read store.site.preferencePath) store.files).1

/-- The preferences as an opening sees them: those that it knows, or else those of the file. -/
def preferences : Preferences :=
  ((store.site.knowledge opening).getD store.held).toOption.getD .empty

theorem preferences_of_unknown (hunknown : store.site.knowledge opening = none) :
    store.preferences opening = store.held.toOption.getD .empty := by
  unfold preferences
  rw [hunknown]
  rfl

/-- The store after an opening had to know what it sees. -/
def looked : FileStore Files :=
  match store.site.knowledge opening with
  | some _ => store
  | none => { store with site := store.site.learn opening store.held }

theorem looked_cases : store.looked opening = store ∨ store.site.knowledge opening = none ∧
    store.looked opening = { store with site := store.site.learn opening store.held } := by
  unfold looked
  cases store.site.knowledge opening with
  | some known => exact .inl rfl
  | none => exact .inr ⟨rfl, rfl⟩

@[simp] theorem looked_files : (store.looked opening).files = store.files := by
  rcases store.looked_cases opening with hsame | ⟨-, hlooked⟩
  · rw [hsame]
  · rw [hlooked]

@[simp] theorem looked_preferencePath :
    (store.looked opening).site.preferencePath = store.site.preferencePath := by
  rcases store.looked_cases opening with hsame | ⟨-, hlooked⟩
  · rw [hsame]
  · rw [hlooked]; rfl

@[simp] theorem looked_nodeRoot : (store.looked opening).site.nodeRoot = store.site.nodeRoot := by
  rcases store.looked_cases opening with hsame | ⟨-, hlooked⟩
  · rw [hsame]
  · rw [hlooked]; rfl

/-- Looking changes nothing that any opening sees. -/
@[simp] theorem preferences_looked :
    (store.looked opening).preferences other = store.preferences other := by
  rcases store.looked_cases opening with hsame | ⟨hunknown, hlooked⟩
  · rw [hsame]
  · rw [hlooked]
    unfold preferences
    rw [Site.knowledge_learn]
    split
    · -- The opening saw the file, and now it knows what it saw.
      next hsame => rw [hsame.1, hunknown]; rfl
    · rfl

variable [LawfulFiles Files]

theorem run_preferences : store.run (Site.preferences opening) =
    (store.preferences opening, store.looked opening) := by
  unfold Site.preferences preferences looked
  rw [run_bind, run_get]
  cases hknown : store.site.knowledge opening with
  | some known => simp only; rfl
  | none =>
      simp only
      rw [run_bind, run_bind, run_liftM, PreferenceFile.read_files]
      rfl

theorem run_saved? (key : String) : store.run (PreferenceAccess.saved? opening key) =
    ((store.preferences opening).get? key, store.looked opening) := by
  show store.run (Site.preferences opening >>= fun known => pure (known.get? key)) = _
  rw [run_bind, run_preferences]
  rfl

/-- What saving does: the file is put in place anew, and if that is accepted, the opening
knows what the file holds. -/
theorem run_save (key : String) (value : Int64) :
    let next := (store.preferences opening).insert key value
    let written := perform (PreferenceFile.write store.site.preferencePath next) store.files
    store.run (Site.save opening key value) =
      match written.1 with
      | .error error => (.error error, { store.looked opening with files := written.2 })
      | .ok () => (.ok (), ⟨(store.looked opening).site.learn opening (.ok next), written.2⟩) := by
  intro next written
  unfold Site.save
  rw [run_bind, run_preferences, run_bind, run_get]
  dsimp only
  rw [run_bind, run_liftM, looked_files, looked_preferencePath]
  show run { store.looked opening with files := written.2 } (match written.1 with
    | .error error => _
    | .ok () => _) = _
  cases written.1 with
  | error error => rfl
  | ok done => rfl

/-- What an accepted saving leaves: the file that was put in place, and the knowledge of it. -/
theorem run_save_accepted {key : String} {value : Int64}
    (haccepted : (store.run (Site.save opening key value)).1 = .ok ()) :
    let next := (store.preferences opening).insert key value
    let written := perform (PreferenceFile.write store.site.preferencePath next) store.files
    written.1 = .ok () ∧ (store.run (Site.save opening key value)).2 =
      ⟨(store.looked opening).site.learn opening (.ok next), written.2⟩ := by
  have hrun := store.run_save opening key value
  intro next written
  cases hwritten : written.1 with
  | error error =>
      simp only [written, next] at hwritten
      simp only [hwritten] at hrun
      rw [hrun] at haccepted
      cases haccepted
  | ok done =>
      simp only [written, next] at hwritten
      simp only [hwritten] at hrun
      rw [hrun]
      exact ⟨rfl, rfl⟩

/-- After an accepted saving the opening sees the value it saved, and so does everyone who reads
the file. -/
theorem save_accepted {key : String} {value : Int64}
    (haccepted : (store.run (Site.save opening key value)).1 = .ok ()) :
    let saved := (store.run (Site.save opening key value)).2
    saved.preferences opening = (store.preferences opening).insert key value ∧
      saved.held = .ok ((store.preferences opening).insert key value) := by
  obtain ⟨hwritten, hsaved⟩ := store.run_save_accepted opening haccepted
  intro saved
  replace hsaved : saved = _ := hsaved
  generalize (store.preferences opening).insert key value = next at hwritten hsaved ⊢
  have hheld : saved.held = .ok next := by
    have hread := PreferenceFile.read_written hwritten
    rw [hsaved]
    rcases store.looked_cases opening with hlooked | ⟨-, hlooked⟩
    · rw [hlooked]; exact hread
    · rw [hlooked]; exact hread
  refine ⟨?_, hheld⟩
  unfold preferences
  rw [hheld, hsaved, Site.knowledge_learn]
  -- An opening that was never made knows nothing and reads the file every time.
  by_cases hopen : opening < (store.looked opening).site.openings.length
  · rw [if_pos ⟨rfl, hopen⟩]
    rfl
  · rw [if_neg fun h => hopen h.2, Site.knowledge_of_le (Nat.le_of_not_lt hopen)]
    rfl

instance : LawfulStore (FileStore Files) where
  saved store opening key := (store.preferences opening).get? key
  saved_answer opening key store := congrArg Prod.fst (store.run_saved? opening key)
  saved_saved opening key store := by
    funext other found
    show ((store.run (PreferenceAccess.saved? opening key)).2.preferences other).get? found = _
    rw [run_saved?, preferences_looked]
  save_accepted opening key value store haccepted := by
    funext found
    show ((store.run (Site.save opening key value)).2.preferences opening).get? found = _
    rw [(store.save_accepted opening haccepted).1, Preferences.get?_insert, Function.update_apply]

end FileStore

end KernelControls
