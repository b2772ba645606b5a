import KernelControls.Proofs.Stores.KeptFiles

/-!
# The store is a durable map

A program opens the preferences of a file, asks for values, puts values and starts again, as often
as it likes, and any put may be refused at any stage.  What it sees is at every point the map that
the file held at first, with the accepted puts in their order; whoever opens the file anew sees the
same, and a refused put leaves everything as it was.

## Strategy

What is seen and what is in the file are two copies of one map, and `OpenStore.Holds` says that
both are the map `known`.  One request keeps this for the map that its answer leaves
(`Holds.serve`), and a run follows by induction.  A refused put writes neither copy.  That it
changes nothing in the file either is what `KeepsFile` is for: a path like `missing/../file` leads
to a file as soon as the directory is made, and then the next restart reads it.
-/

namespace KernelControls

/-! ## Requests -/

/-- A store of preferences as a program has it open. -/
structure OpenStore (Files : Type) where
  store : FileStore Files
  opening : Opening

namespace OpenStore

/-- What a program does with its store; to restart is to drop the store and open it anew. -/
inductive Request where
  | get (key : String) (default : Int64)
  | entries
  | put (key : String) (value : Int64)
  | restart

/-- What a program is answered. -/
inductive Answer where
  | value (value : Int64)
  | entries (preferences : Preferences)
  | saved
  | refused (error : PreferenceError)
  | restarted
  deriving DecidableEq

/-- How a put is answered. -/
def Answer.ofSaving : Except PreferenceError Unit → Answer
  | .ok () => .saved
  | .error error => .refused error

theorem Answer.accepted_of_saved {result : Except PreferenceError Unit}
    (hsaved : ofSaving result = .saved) : result = .ok () := by
  cases result with
  | error error => cases hsaved
  | ok done => rfl

/-- Open the preferences of a file. -/
def start {Files : Type} (nodeRoot path : String) (files : Files) : OpenStore Files :=
  ⟨⟨.start nodeRoot path, files⟩, 0⟩

variable {Files : Type} [FileSystem (StateM Files)]

/-- The answer to a request, and the store after it. -/
def serve (opened : OpenStore Files) : Request → Answer × OpenStore Files
  | .get key default =>
    let found := opened.store.run (PreferenceAccess.saved? opened.opening key)
    (.value (found.1.getD default), { opened with store := found.2 })
  | .entries =>
    let known := opened.store.run (Site.preferences opened.opening)
    (.entries known.1, { opened with store := known.2 })
  | .put key value =>
    let saved := opened.store.run (PreferenceAccess.save opened.opening key value)
    (.ofSaving saved.1, { opened with store := saved.2 })
  | .restart =>
    let site := opened.store.site
    (.restarted, ⟨{ opened.store with site := site.reopen }, site.nextOpening⟩)

/-- The answers to requests, one after the other, and the store after them. -/
def serveAll (opened : OpenStore Files) : List Request → List Answer × OpenStore Files
  | [] => ([], opened)
  | request :: rest =>
    let served := opened.serve request
    let later := serveAll served.2 rest
    (served.1 :: later.1, later.2)

/-- What a map holds after a request: an accepted put sets its key, and nothing else changes
it. -/
def Request.effect (known : Preferences) : Request → Answer → Preferences
  | .put key value, .saved => known.insert key value
  | _, _ => known

/-- What a map holds after requests with their answers. -/
def effects (known : Preferences) (served : List (Request × Answer)) : Preferences :=
  served.foldl (fun known served => served.1.effect known served.2) known

/-! ## What a request can do -/

section Serve

variable (opened : OpenStore Files) (key : String)

theorem serve_put (value : Int64) : opened.serve (.put key value) =
    let saved := opened.store.run (Site.save opened.opening key value)
    (.ofSaving saved.1, { opened with store := saved.2 }) := rfl

variable [LawfulFiles Files]

theorem serve_entries : opened.serve .entries =
    (.entries (opened.store.preferences opened.opening),
      { opened with store := opened.store.looked opened.opening }) := by
  show (Answer.entries (opened.store.run (Site.preferences opened.opening)).1, _) = _
  rw [FileStore.run_preferences]

theorem serve_get (default : Int64) : opened.serve (.get key default) =
    (.value (((opened.store.preferences opened.opening).get? key).getD default),
      { opened with store := opened.store.looked opened.opening }) := by
  show (Answer.value ((opened.store.run
    (PreferenceAccess.saved? opened.opening key)).1.getD default), _) = _
  rw [FileStore.run_saved?]

/-- A put writes the file, and the program sees a new value only if that was accepted. -/
theorem serve_put_cases (value : Int64) :
    let next := (opened.store.preferences opened.opening).insert key value
    let written := perform (PreferenceFile.write opened.store.site.preferencePath next)
      opened.store.files
    let looked := opened.store.looked opened.opening
    (∃ error, written.1 = .error error ∧ opened.serve (.put key value) =
      (.refused error, ⟨{ looked with files := written.2 }, opened.opening⟩)) ∨
    (written.1 = .ok () ∧ opened.serve (.put key value) =
      (.saved, ⟨⟨looked.site.learn opened.opening (.ok next), written.2⟩, opened.opening⟩)) := by
  intro next written looked
  rw [serve_put, opened.store.run_save]
  cases written.1 with
  | error error => exact .inl ⟨error, rfl, rfl⟩
  | ok done => exact .inr ⟨rfl, rfl⟩

end Serve

/-! ## Two copies of one map -/

/-- What the program sees and what the file holds are the same map. -/
structure Holds (path : String) (Sound : Files → Prop) (opened : OpenStore Files)
    (known : Preferences) : Prop where
  place : opened.store.site.preferencePath = path
  sound : Sound opened.store.files
  sees : opened.store.preferences opened.opening = known
  reads : .ofContent (fileContent path opened.store.files) = known

variable [LawfulFiles Files] {path : String} {Sound : Files → Prop} {opened : OpenStore Files}
  {known : Preferences}

/-- A store that was just opened sees what the file holds. -/
theorem holds_start (nodeRoot : String) {files : Files} (hsound : Sound files) :
    (start nodeRoot path files).Holds path Sound (.ofContent (fileContent path files)) where
  place := rfl
  sound := hsound
  sees := by
    rw [FileStore.preferences_of_unknown _ _ rfl]
    exact FileStore.held_eq_ofContent _
  reads := rfl

namespace Holds

theorem entries (holds : opened.Holds path Sound known) :
    (opened.serve .entries).1 = .entries known := by
  rw [serve_entries, holds.sees]

theorem get (holds : opened.Holds path Sound known) (key : String) (default : Int64) :
    (opened.serve (.get key default)).1 = .value ((known.get? key).getD default) := by
  rw [serve_get, holds.sees]

omit [LawfulFiles Files] in
theorem looked (holds : opened.Holds path Sound known) :
    Holds path Sound { opened with store := opened.store.looked opened.opening } known where
  place := (FileStore.looked_preferencePath _ _).trans holds.place
  sound := by simpa using holds.sound
  sees := (FileStore.preferences_looked _ _ _).trans holds.sees
  reads := by simpa using holds.reads

/-- A store that is opened anew reads the map from the file. -/
theorem restart (holds : opened.Holds path Sound known) :
    (opened.serve .restart).2.Holds path Sound known where
  place := holds.place
  sound := holds.sound
  sees := by
    -- The new opening has read nothing yet, so it sees what the file holds.
    have hunread : opened.store.site.reopen.knowledge opened.store.site.nextOpening = none := by
      simp [Site.reopen, Site.knowledge, Site.nextOpening]
    show FileStore.preferences { opened.store with site := opened.store.site.reopen } _ = known
    rw [FileStore.preferences_of_unknown _ _ hunread, FileStore.held_eq_ofContent]
    exact holds.place ▸ holds.reads
  reads := holds.reads

/-- A refused put leaves both copies as they are, and the file too. -/
theorem refused (holds : opened.Holds path Sound known) (keeps : KeepsFile path Sound)
    {key : String} {value : Int64} {error : PreferenceError}
    (hrefused : (opened.serve (.put key value)).1 = .refused error) :
    (opened.serve (.put key value)).2.Holds path Sound known ∧
      fileContent path (opened.serve (.put key value)).2.store.files =
        fileContent path opened.store.files := by
  rcases opened.serve_put_cases key value with ⟨error, hwritten, hput⟩ | ⟨-, hput⟩
  · -- The file keeps its content, and the program still sees what it knew before.
    rw [holds.place] at hwritten hput
    have hcontent := keeps.write_refused holds.sound hwritten
    rw [hput]
    refine ⟨⟨holds.looked.place, keeps.sound_written holds.sound _, ?_, ?_⟩, hcontent⟩
    · refine (FileStore.preferences_of_files _ _ opened.opening ?_).trans holds.looked.sees
      rw [holds.looked.place, FileStore.looked_files]
      exact hcontent
    · exact (congrArg _ hcontent).trans holds.reads
  · rw [hput] at hrefused
    cases hrefused

/-- An accepted put sets its key in both copies. -/
theorem accepted (holds : opened.Holds path Sound known) (keeps : KeepsFile path Sound)
    {key : String} {value : Int64} (haccepted : (opened.serve (.put key value)).1 = .saved) :
    (opened.serve (.put key value)).2.Holds path Sound (known.insert key value) := by
  obtain ⟨hsees, hheld⟩ :=
    opened.store.save_accepted opened.opening (Answer.accepted_of_saved haccepted)
  rw [holds.sees] at hsees hheld
  rcases opened.serve_put_cases key value with ⟨error, -, hput⟩ | ⟨-, hput⟩
  · rw [hput] at haccepted
    cases haccepted
  · have hplace : (opened.serve (.put key value)).2.store.site.preferencePath = path := by
      rw [hput]
      exact holds.looked.place
    refine ⟨hplace, ?_, hsees, ?_⟩
    · rw [hput, holds.place]
      exact keeps.sound_written holds.sound _
    · rw [← hplace, ← FileStore.held_eq_ofContent]
      exact congrArg (fun held => held.toOption.getD .empty) hheld

/-- Every request leaves both copies as the map that its answer tells of. -/
theorem serve (holds : opened.Holds path Sound known) (keeps : KeepsFile path Sound)
    (request : Request) :
    (opened.serve request).2.Holds path Sound (request.effect known (opened.serve request).1) := by
  cases request with
  | get key default => rw [serve_get]; exact holds.looked
  | entries => rw [serve_entries]; exact holds.looked
  | put key value =>
      rcases opened.serve_put_cases key value with ⟨error, -, hput⟩ | ⟨-, hput⟩
      · have hrefused : (opened.serve (.put key value)).1 = .refused error := by rw [hput]
        rw [hrefused]
        exact (holds.refused keeps hrefused).1
      · have haccepted : (opened.serve (.put key value)).1 = .saved := by rw [hput]
        rw [haccepted]
        exact holds.accepted keeps haccepted
  | restart => exact holds.restart

theorem serveAll (holds : opened.Holds path Sound known) (keeps : KeepsFile path Sound)
    (requests : List Request) :
    let ran := opened.serveAll requests
    ran.2.Holds path Sound (effects known (requests.zip ran.1)) := by
  induction requests generalizing opened known with
  | nil => exact holds
  | cons request rest ih => exact ih (holds.serve keeps request)

end Holds

/-- **The store is a durable, atomic map.**  Let a program open the preferences of a file and make
any requests, of which any put may be refused at any stage; the files keep the file until another
one is put in its place.  Take the preferences that the file held at first, none if it was not there
or could not be used, and put into them what was accepted, in this order.  That map is what the
program sees and what every look-up answers from, and whoever opens the file anew sees the same.  A
refused put leaves all that is seen and the file as they were, and a question leaves all files as
they are. -/
theorem durable_atomic_map {path : String} {Sound : Files → Prop} (keeps : KeepsFile path Sound)
    (nodeRoot : String) (files : Files) (hsound : Sound files) (requests : List Request) :
    let ran := (start nodeRoot path files).serveAll requests
    let known := effects (.ofContent (fileContent path files)) (requests.zip ran.1)
    let last := ran.2
    (last.serve .entries).1 = .entries known ∧
    (∀ key default, (last.serve (.get key default)).1 =
      .value ((known.get? key).getD default)) ∧
    ((start nodeRoot path last.store.files).serve .entries).1 = .entries known ∧
    (∀ key value error, (last.serve (.put key value)).1 = .refused error →
      ((last.serve (.put key value)).2.serve .entries).1 = .entries known ∧
      fileContent path (last.serve (.put key value)).2.store.files =
        fileContent path last.store.files) ∧
    (last.serve .entries).2.store.files = last.store.files ∧
    ∀ key default, (last.serve (.get key default)).2.store.files = last.store.files := by
  intro ran known last
  have holds : last.Holds path Sound known := (holds_start nodeRoot hsound).serveAll keeps requests
  have hfresh : (start nodeRoot path last.store.files).Holds path Sound known :=
    holds.reads ▸ holds_start nodeRoot holds.sound
  refine ⟨holds.entries, holds.get, hfresh.entries, fun key value error hrefused => ?_, ?_, ?_⟩
  · obtain ⟨hkept, hcontent⟩ := holds.refused keeps hrefused
    exact ⟨hkept.entries, hcontent⟩
  · rw [serve_entries]
    exact FileStore.looked_files _ _
  · intro key default
    rw [serve_get]
    exact FileStore.looked_files _ _

/-- A file in a directory that is still to be made.  Puts are refused at every stage, also before
the directory is complete; those that are accepted are there after the restart. -/
theorem refused_and_accepted_puts :
    let path := "data/preferences.toml"
    let files : Faulty FileTree :=
      ⟨[some .directories, none, some .preparing, some .placing],
        ⟨["work"], [(["work"], .directory)]⟩⟩
    let requests : List Request :=
      [.put "a" 1, .put "a" 2, .put "b" 3, .restart, .put "a" 4, .get "a" 0, .put "b" 5]
    let last := ((start "" path files).serveAll requests).2
    let known := Preferences.ofList [("a", 2), ("b", 5)]
    (last.serve .entries).1 = .entries known ∧
      ((start "" path last.store.files).serve .entries).1 = .entries known := by
  intro path files requests last known
  have hknown : effects (.ofContent (fileContent path files))
      (requests.zip ((start "" path files).serveAll requests).1) = known := by decide +kernel
  have hdown : ".." ∉ Path.pieces path := by decide +kernel
  have hrooted : files.files.Rooted :=
    FileTree.rooted_of_entries (List.forall_mem_singleton.mpr rfl)
  obtain ⟨hentries, -, hfresh, -⟩ :=
    durable_atomic_map (Faulty.keepsFile (FileTree.keepsFile hdown)) "" files hrooted requests
  exact ⟨hknown ▸ hentries, hknown ▸ hfresh⟩

/-- A put that is refused after its directories were made brings an old file to light, if the path
goes through one of them and back.  What the program sees is as before, but after a restart it sees
what the old file holds. -/
theorem refused_put_brings_old_file_back :
    let path := "missing/../preferences.toml"
    let old := Preferences.ofList [("a", 5)]
    let files : Faulty FileTree := ⟨[some .preparing], ⟨["work"], [(["work"], .directory),
      (["work", "preferences.toml"], .file old.document.toUTF8)]⟩⟩
    let put := (start "" path files).serve (.put "b" 1)
    fileContent path files = none ∧
      put.1 = .refused (.io .permissionDenied) ∧
      (put.2.serve .entries).1 = .entries .empty ∧
      fileContent path put.2.store.files = some old.document.toUTF8 ∧
      ((start "" path put.2.store.files).serve .entries).1 = .entries old := by
  decide +kernel

end OpenStore

end KernelControls
