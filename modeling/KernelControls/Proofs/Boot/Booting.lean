import KernelControls.Proofs.Families.Loading
import KernelControls.Proofs.FileTrees.ReportFile
import KernelControls.Proofs.Boot.SiteRestoring

/-!
# What a boot run touches

A boot run that gets nowhere touches nothing.  One that restores writes the files of nodes and its
report, makes directories for the report, and touches nothing else.

## Strategy

The stages come one after the other.  Loading only looks (`loadSettings_tree`, `loadCatalog_tree`).
Restoring changes the content of files whose places are known before the run
(`entryAt?_restoreSite`), so it leaves the shape of the tree, and with it whether and where the
report can be written (`writeReport_sameShape`).  What writing the report does to the restored tree
is then what it does to the tree before (`synced`).
-/

namespace KernelControls.BootRun

variable {tree : FileTree}

/-! ## Runs that get somewhere -/

/-- What a boot run restores: its settings and its catalog, if both can be loaded and the log filter
can be used. -/
structure Syncs (arguments : List String) (environment : List (String × String)) (tree : FileTree)
    (settings : Settings) (catalog : Catalog) : Prop where
  loaded : ∃ path, BootRequest.ofArguments arguments = .run path ∧
    (perform (Settings.load environment path) tree).1 = .ok settings
  logs : (LogFilter.choose? (environment.lookup filterVariable) settings.logFilter).isSome = true
  catalogued : (perform (Catalog.load settings.familiesDirectory) tree).1.2 = .ok catalog

section Run

variable {settings : Settings} {catalog : Catalog}

theorem runWith_ok (filter : LogFilter) (notes : List String)
    (hloaded : (perform (Catalog.load settings.familiesDirectory) tree).1.2 = .ok catalog) :
    let restored := perform (restoreSite settings catalog) tree
    let done := perform (runWith settings filter notes) tree
    done.1.exitCode = 0 ∧
      done.2 = (perform (writeReport settings.reportPath restored.1.1) restored.2).2 := by
  have hsame := tree.loadCatalog_tree settings.familiesDirectory
  unfold runWith
  rw [perform_bind, hsame]
  generalize (perform (Catalog.load settings.familiesDirectory) tree).1 = loaded at hloaded ⊢
  obtain ⟨definitions, result⟩ := loaded
  obtain rfl : result = .ok catalog := hloaded
  exact ⟨rfl, rfl⟩

theorem runWith_error (filter : LogFilter) (notes : List String) {error : LoadError}
    (hloaded : (perform (Catalog.load settings.familiesDirectory) tree).1.2 = .error error) :
    let done := perform (runWith settings filter notes) tree
    done.1.exitCode = failureCode ∧ done.2 = tree := by
  have hsame := tree.loadCatalog_tree settings.familiesDirectory
  unfold runWith
  rw [perform_bind, hsame]
  generalize (perform (Catalog.load settings.familiesDirectory) tree).1 = loaded at hloaded ⊢
  obtain ⟨definitions, result⟩ := loaded
  obtain rfl : result = .error error := hloaded
  exact ⟨rfl, rfl⟩

variable {arguments : List String} {environment : List (String × String)}

theorem run_of_syncs (syncs : Syncs arguments environment tree settings catalog) :
    let restored := perform (restoreSite settings catalog) tree
    let done := perform (run arguments environment) tree
    done.1.exitCode = 0 ∧
      done.2 = (perform (writeReport settings.reportPath restored.1.1) restored.2).2 := by
  obtain ⟨path, hrequest, hsettings⟩ := syncs.loaded
  obtain ⟨⟨filter, notes⟩, hfilter⟩ := Option.isSome_iff_exists.mp syncs.logs
  have hsame := tree.loadSettings_tree environment path
  unfold run
  rw [hrequest]
  dsimp only
  rw [perform_bind, hsame, hsettings]
  dsimp only
  rw [hfilter]
  exact runWith_ok filter notes syncs.catalogued

/-- A run that does not come to restoring touches nothing, and fails unless something was to be
shown. -/
theorem run_of_not_syncs
    (hnever : ¬∃ settings catalog, Syncs arguments environment tree settings catalog) :
    let done := perform (run arguments environment) tree
    done.2 = tree ∧ (done.1.exitCode = 0 →
      BootRequest.ofArguments arguments = .showVersion ∨
        BootRequest.ofArguments arguments = .showUsage) := by
  unfold run
  cases hrequest : BootRequest.ofArguments arguments with
  | refuse => exact ⟨rfl, fun h => nomatch h⟩
  | showVersion => exact ⟨rfl, fun _ => .inl rfl⟩
  | showUsage => exact ⟨rfl, fun _ => .inr rfl⟩
  | run path =>
      have hsame := tree.loadSettings_tree environment path
      dsimp only
      rw [perform_bind, hsame]
      cases hsettings : (perform (Settings.load environment path) tree).1 with
      | error refusal => exact ⟨rfl, fun h => nomatch h⟩
      | ok settings =>
          dsimp only
          cases hfilter : LogFilter.choose? (environment.lookup filterVariable)
              settings.logFilter with
          | none => exact ⟨rfl, fun h => nomatch h⟩
          | some chosen =>
              cases hloaded : (perform (Catalog.load settings.familiesDirectory) tree).1.2 with
              | error error =>
                  -- A definition that cannot be used ends the run with a failure.
                  obtain ⟨hcode, hafter⟩ := runWith_error chosen.1 chosen.2 hloaded
                  refine ⟨hafter, fun hzero => ?_⟩
                  cases hcode.symm.trans hzero
              | ok catalog =>
                  -- Nothing was missing, so this run does come to restoring.
                  refine absurd ⟨settings, catalog, ⟨path, hrequest, hsettings⟩, ?_, hloaded⟩ hnever
                  rw [hfilter]
                  rfl

end Run

/-! ## What is touched -/

/-- What a boot run that restores makes of a tree of files.

`entries` says of every location what stands there afterwards: what the restoring leaves there
(`Settings.restored?`), a new directory above the report, or whatever it is at the end of the
report's path, if the report is not refused. -/
structure Synced (settings : Settings) (catalog : Catalog) (before after : FileTree)
    (report : RestoreReport) : Prop where
  /-- The report has one entry for every family, in order. -/
  describes : List.Forall₂ (settings.footing before).Describes catalog.families report.families
  entries : ∀ place,
    after.entryAt? place = settings.restored? before catalog.families place ∨
    (before.entryAt? place = none ∧ after.entryAt? place = some .directory ∧
      ∃ first, first <+: (Path.components settings.reportPath).dropLast ∧
        place = Path.follow before.workingDirectory first) ∨
    (place = before.lead settings.reportPath ∧
      (perform (writeReport settings.reportPath report) before).1 = none)
  /-- What is written belongs to a family all of whose nodes were there. -/
  owners : ∀ place control, settings.lastWriter? before catalog.families place = some control →
    settings.location before control = place ∧ ∃ family ∈ catalog.families,
      control ∈ family.controls ∧ ∀ other ∈ family.controls,
        before.isPresent (Path.resolve settings.nodeRoot other.path) = true
  /-- The node of every control of a supported family that is not listed as failed is a file, and
  it is written, unless the report comes to stand there. -/
  written : ∀ family entry, (family, entry) ∈ catalog.families.zip report.families →
    (settings.footing before).supports family = true →
    ∀ control ∈ family.controls, control.name ∉ entry.outcome.failed →
      ∃ old last,
        before.find (Path.resolve settings.nodeRoot control.path) =
          .ok (settings.location before control, .file old) ∧
        settings.lastWriter? before catalog.families (settings.location before control) =
          some last ∧
        (settings.location before control ≠ before.lead settings.reportPath →
          after.find (Path.resolve settings.nodeRoot control.path) =
            .ok (settings.location before control,
              .file (settings.restoredText before last).toUTF8))
  /-- The preference file stays, and none comes to be, unless it is the file of a node or of the
  report. -/
  preferences :
    settings.lastWriter? before catalog.families (before.lead settings.storePath) = none →
    before.lead settings.storePath ≠ before.lead settings.reportPath → ∀ content,
      (before.find settings.storePath = .ok (before.lead settings.storePath, .file content) →
        after.find settings.storePath = .ok (before.lead settings.storePath, .file content)) ∧
      (after.entryAt? (before.lead settings.storePath) = some (.file content) →
        before.entryAt? (before.lead settings.storePath) = some (.file content))
  /-- A report that is not refused is found at its path. -/
  reported : (perform (writeReport settings.reportPath report) before).1 = none →
    after.find settings.reportPath =
      .ok (before.lead settings.reportPath, .file report.toForm.pretty.toUTF8)

section Synced

variable {settings : Settings} {catalog : Catalog} {before : FileTree} {family : Family}
  {entry : FamilyOutcome}

/-- A control of a supported family that is not listed as failed is one that is written. -/
theorem mem_writers (hdescribes : (settings.footing before).Describes family entry)
    (hfamily : family ∈ catalog.families)
    (hsupports : (settings.footing before).supports family = true) {control : Control}
    (hcontrol : control ∈ family.controls) (hkept : control.name ∉ entry.outcome.failed) :
    control ∈ (settings.footing before).writers catalog.families := by
  obtain ⟨written, failures, houtcome, hfailures, -⟩ := hdescribes.applied hsupports
  refine List.mem_filter.mpr ⟨List.mem_flatMap.mpr
    ⟨family, List.mem_filter.mpr ⟨hfamily, hsupports⟩, hcontrol⟩, ?_⟩
  rw [houtcome] at hkept
  cases hrefuses : (settings.footing before).refuses control with
  | false => rfl
  | true =>
      refine absurd ?_ hkept
      show control.name ∈ failures.map Prod.fst
      rw [hfailures]
      exact List.mem_map_of_mem (List.mem_filter.mpr ⟨hcontrol, hrefuses⟩)

theorem exists_lastWriter? {control : Control}
    (hwriter : control ∈ (settings.footing before).writers catalog.families) :
    ∃ last, settings.lastWriter? before catalog.families (settings.location before control) =
      some last := by
  have hmem : control ∈ ((settings.footing before).writers catalog.families).filter fun other =>
      settings.location before other = settings.location before control :=
    List.mem_filter.mpr ⟨hwriter, decide_eq_true rfl⟩
  exact ⟨_, List.getLast?_eq_some_getLast (List.ne_nil_of_mem hmem)⟩

/-- A control that is written has its node at its place, and its family is supported. -/
theorem owner_of_lastWriter? {place : Location} {control : Control}
    (hlast : settings.lastWriter? before catalog.families place = some control) :
    settings.location before control = place ∧ ∃ family ∈ catalog.families,
      control ∈ family.controls ∧ ∀ other ∈ family.controls,
        before.isPresent (Path.resolve settings.nodeRoot other.path) = true := by
  obtain ⟨hwriter, hplace⟩ := List.mem_filter.mp (List.mem_of_getLast? hlast)
  obtain ⟨hmem, -⟩ := List.mem_filter.mp hwriter
  obtain ⟨family, hfamily, hcontrol⟩ := List.mem_flatMap.mp hmem
  obtain ⟨hfamily, hsupports⟩ := List.mem_filter.mp hfamily
  refine ⟨of_decide_eq_true hplace, family, hfamily, hcontrol, fun other hother => ?_⟩
  exact List.all_eq_true.mp (Bool.and_eq_true_iff.mp hsupports).2 other hother

/-- Restoring, and then writing the report of it. -/
theorem synced (settings : Settings) (catalog : Catalog) (before : FileTree) :
    let restored := perform (restoreSite settings catalog) before
    Synced settings catalog before
      (perform (writeReport settings.reportPath restored.1.1) restored.2).2 restored.1.1 := by
  intro restored
  have hshape : before.SameShape restored.2 := settings.sameShape_restoreSite before catalog
  have hrestored : ∀ place, restored.2.entryAt? place =
      settings.restored? before catalog.families place := fun _ =>
    settings.entryAt?_restoreSite before catalog
  have hdescribes : List.Forall₂ (settings.footing before).Describes catalog.families
      restored.1.1.families := settings.describes_restoreSite before catalog
  have hanswer := writeReport_sameShape settings.reportPath hshape restored.1.1 restored.1.1
  have hreported := reported_writeReport settings.reportPath restored.2 restored.1.1
  generalize (perform (writeReport settings.reportPath restored.1.1) restored.2).2 = after
    at hreported ⊢
  have hdirectories : ∀ place, before.entryAt? place = some .directory →
      after.entryAt? place = some .directory := fun place hdirectory =>
    hreported.directories place (hshape.directory_iff.mpr hdirectory)
  have hworking : after.workingDirectory = before.workingDirectory :=
    hreported.workingDirectory.trans hshape.workingDirectory
  have hentries : ∀ place,
      after.entryAt? place = settings.restored? before catalog.families place ∨
      (before.entryAt? place = none ∧ after.entryAt? place = some .directory ∧
        ∃ first, first <+: (Path.components settings.reportPath).dropLast ∧
          place = Path.follow before.workingDirectory first) ∨
      (place = before.lead settings.reportPath ∧
        (perform (writeReport settings.reportPath restored.1.1) before).1 = none) := by
    intro place
    rcases hreported.entries place with hsame | ⟨hfree, hmade, hpath⟩ | ⟨hplace, hwritten⟩
    · exact .inl (hsame.trans (hrestored place))
    · exact .inr (.inl ⟨hshape.none_iff.mp hfree, hmade, hshape.workingDirectory ▸ hpath⟩)
    · exact .inr (.inr ⟨hshape.lead settings.reportPath ▸ hplace, hanswer ▸ hwritten⟩)
  -- What a path leads to is found afterwards as the restoring left it, away from the report.
  have hfound : ∀ path place entry entry', before.find path = .ok (place, entry) →
      settings.restored? before catalog.families place = some entry' →
      place ≠ before.lead settings.reportPath → after.find path = .ok (place, entry') := by
    intro path place entry entry' hfind hthere hapart
    refine FileTree.find_of_directories hworking hdirectories hfind ?_
    rcases hentries place with hsame | ⟨hfree, -⟩ | ⟨hplace, -⟩
    · exact hsame.trans hthere
    · rw [(FileTree.find_iff_placeOf.mp hfind).2] at hfree
      cases hfree
    · exact absurd hplace hapart
  refine ⟨hdescribes, hentries, fun _ _ => owner_of_lastWriter?, ?_, ?_, ?_⟩
  · intro family entry hpair hsupports control hcontrol hkept
    have hwriter := mem_writers ((List.forall₂_iff_zip.mp hdescribes).2 hpair)
      (List.of_mem_zip hpair).1 hsupports hcontrol hkept
    obtain ⟨old, hfind⟩ := settings.find_of_mem_writers before hwriter
    obtain ⟨last, hlast⟩ := exists_lastWriter? hwriter
    refine ⟨old, last, hfind, hlast, hfound _ _ _ _ hfind ?_⟩
    unfold Settings.restored?
    rw [hlast]
  · intro hnobody hapart content
    have hstays : settings.restored? before catalog.families (before.lead settings.storePath) =
        before.entryAt? (before.lead settings.storePath) := by
      unfold Settings.restored?
      rw [hnobody]
    refine ⟨fun hfind => ?_, fun hthere => ?_⟩
    · refine hfound _ _ _ _ hfind ?_ hapart
      exact hstays.trans (FileTree.find_iff_placeOf.mp hfind).2
    · rcases hentries (before.lead settings.storePath) with hsame | ⟨-, hmade, -⟩ | ⟨hplace, -⟩
      · -- A file there is the old one: a new directory is none, and the report stands elsewhere.
        rw [← hstays, ← hsame, hthere]
      · rw [hmade] at hthere
        cases hthere
      · exact absurd hplace hapart
  · intro hwritten
    rw [← hshape.lead settings.reportPath]
    exact hreported.written (hanswer.trans hwritten)

end Synced

/-- **A boot run touches no more than it must.**  Take any tree of files, in which anything may be
missing, malformed, a directory or refused.

A run that fails leaves the tree as it is.  So does one that does not come to restoring, because its
arguments, its settings, its log filter or its definitions cannot be used, and it fails unless the
version or the usage is shown.

A run that comes to restoring does not fail, whatever nodes refuse and whether or not the report can
be written, and every definition file was one.  What it makes of the tree is known for every
location (`Synced`), and the report is that of the restoring. -/
theorem run_touches_only (arguments : List String) (environment : List (String × String))
    (tree : FileTree) :
    let done := perform (run arguments environment) tree
    (done.1.exitCode ≠ 0 → done.2 = tree) ∧
    ((¬∃ settings catalog, Syncs arguments environment tree settings catalog) →
      done.2 = tree ∧ (done.1.exitCode = 0 → BootRequest.ofArguments arguments = .showVersion ∨
        BootRequest.ofArguments arguments = .showUsage)) ∧
    ∀ settings catalog, Syncs arguments environment tree settings catalog →
      done.1.exitCode = 0 ∧
      (tree.isPresent settings.familiesDirectory = true →
        ∃ names, tree.list settings.familiesDirectory = .ok names ∧
          ∀ name ∈ Catalog.definitionNames names, ∃ family,
            tree.Defines (Path.join settings.familiesDirectory name) family) ∧
      Synced settings catalog tree done.2 (perform (restoreSite settings catalog) tree).1.1 := by
  intro done
  refine ⟨fun hfailed => ?_, run_of_not_syncs, fun settings catalog syncs => ?_⟩
  · by_cases hsyncs : ∃ settings catalog, Syncs arguments environment tree settings catalog
    · obtain ⟨settings, catalog, syncs⟩ := hsyncs
      exact absurd (run_of_syncs syncs).1 hfailed
    · exact (run_of_not_syncs hsyncs).1
  · obtain ⟨hcode, hafter⟩ := run_of_syncs syncs
    refine ⟨hcode, FileTree.defines_of_load syncs.catalogued, ?_⟩
    show Synced settings catalog tree (perform (run arguments environment) tree).2 _
    rw [hafter]
    exact synced settings catalog tree

/-- A machine with a vibration motor and an empty preference file. -/
def machine : FileTree where
  workingDirectory := ["machine"]
  entries :=
    [(["machine"], .directory), (["machine", "data"], .directory),
     (["machine", "data", "p.toml"], .file .empty), (["machine", "root"], .directory),
     (["machine", "root", "sys"], .directory), (["machine", "root", "sys", "class"], .directory),
     (["machine", "root", "sys", "class", "timed_output"], .directory),
     (["machine", "root", "sys", "class", "timed_output", "vibrator"], .directory),
     (["machine", "root", "sys", "class", "timed_output", "vibrator", "pwm_value"],
       .file "0".toUTF8)]

/-- The environment of the machine, with a path for the report. -/
def machineEnvironment (reportPath : String) : List (String × String) :=
  [("HWTUNE_NODE_ROOT", "root"), ("HWTUNE_STORE_PATH", "data/p.toml"),
   ("HWTUNE_FAMILIES_DIR", "families"), ("HWTUNE_REPORT_PATH", reportPath)]

/-- The settings of the machine. -/
def machineSettings (reportPath : String) : Settings where
  nodeRoot := "root"
  storePath := "data/p.toml"
  familiesDirectory := "families"
  reportPath := reportPath
  logFilter := "info"

/-- The control of the machine's motor. -/
def intensity : Control where
  name := "intensity"
  path := "/sys/class/timed_output/vibrator/pwm_value"
  maximum := 100
  default := 50

theorem machine_touched :
    let done := perform (run [] (machineEnvironment "log/boot.json")) machine
    Syncs [] (machineEnvironment "log/boot.json") machine (machineSettings "log/boot.json")
        .builtin ∧
      done.1.exitCode = 0 ∧
      done.2.find "root/sys/class/timed_output/vibrator/pwm_value" =
        .ok (["machine", "root", "sys", "class", "timed_output", "vibrator", "pwm_value"],
          .file "50".toUTF8) := by
  have hpath : Path.resolve "root" intensity.path =
      "root/sys/class/timed_output/vibrator/pwm_value" := by decide +kernel
  have hintensity : (machineSettings "log/boot.json").location machine intensity =
      ["machine", "root", "sys", "class", "timed_output", "vibrator", "pwm_value"] := by
    decide +kernel
  have hlastWriter : (machineSettings "log/boot.json").lastWriter? machine Catalog.builtin.families
      ["machine", "root", "sys", "class", "timed_output", "vibrator", "pwm_value"] =
        some intensity := by decide +kernel
  have htext : (machineSettings "log/boot.json").restoredText machine intensity = "50" := by
    decide +kernel
  have syncs : Syncs [] (machineEnvironment "log/boot.json") machine
      (machineSettings "log/boot.json") .builtin :=
    ⟨⟨none, by decide +kernel, by decide +kernel⟩, by decide +kernel, by decide +kernel⟩
  obtain ⟨hcode, -, hsynced⟩ := (run_touches_only _ _ _).2.2 _ _ syncs
  refine ⟨syncs, hcode, ?_⟩
  obtain ⟨old, last, -, hlast, hwritten⟩ := hsynced.written .vibration
    ⟨"vibration", .applied 1 []⟩ (by decide +kernel) (by decide +kernel) intensity
    List.mem_cons_self List.not_mem_nil
  rw [hintensity] at hlast hwritten
  obtain rfl : intensity = last := Option.some.inj (hlastWriter.symm.trans hlast)
  rw [htext, show Path.resolve (machineSettings "log/boot.json").nodeRoot intensity.path = _ from
    hpath] at hwritten
  exact hwritten (by decide +kernel)

/-- The report replaces the preferences, if it is put in their place. -/
theorem preferences_not_spared :
    ¬∀ arguments environment tree settings catalog,
      Syncs arguments environment tree settings catalog →
      (∀ family ∈ catalog.families, ∀ control ∈ family.controls,
        settings.location tree control ≠ tree.lead settings.reportPath ∧
          settings.location tree control ≠ tree.lead settings.storePath) →
      (perform (run arguments environment) tree).2.find settings.storePath =
        tree.find settings.storePath := by
  intro hspared
  have syncs : Syncs [] (machineEnvironment "data/p.toml") machine
      (machineSettings "data/p.toml") .builtin :=
    ⟨⟨none, by decide +kernel, by decide +kernel⟩, by decide +kernel, by decide +kernel⟩
  have hnodes : ∀ family ∈ Catalog.builtin.families, ∀ control ∈ family.controls,
      Path.IsNode control.path := by decide +kernel
  have hdata : machine.lead "data/p.toml" = ["machine", "data", "p.toml"] := by decide +kernel
  have hroot : machine.lead "root" = ["machine", "root"] := by decide +kernel
  have hapart : ∀ family ∈ Catalog.builtin.families, ∀ control ∈ family.controls,
      (machineSettings "data/p.toml").location machine control ≠ machine.lead "data/p.toml" := by
    intro family hfamily control hcontrol hsame
    have hlead : machine.lead (Path.resolve "root" control.path) = machine.lead "data/p.toml" :=
      hsame
    rw [FileTree.lead_resolve (hnodes family hfamily control hcontrol), hroot, hdata] at hlead
    simp at hlead
  -- No node is in that place, so the preferences are said to be spared.
  have hkept := hspared _ _ _ _ _ syncs fun family hfamily control hcontrol =>
    ⟨hapart family hfamily control hcontrol, hapart family hfamily control hcontrol⟩
  have hreported := (synced (machineSettings "data/p.toml") .builtin machine).reported
    (writeReport_eq_none (by decide +kernel) (by decide +kernel))
  rw [(run_of_syncs syncs).2] at hkept
  -- The report is found where the preferences were, and it is not empty.
  have hbefore := (FileTree.find_iff_placeOf.mp (hkept.symm.trans hreported)).2
  have hempty : machine.entryAt? ["machine", "data", "p.toml"] = some (.file "".toUTF8) := rfl
  rw [show machine.lead (machineSettings "data/p.toml").reportPath = _ from hdata, hempty,
    Option.some_inj] at hbefore
  exact RestoreReport.pretty_ne_empty _ (String.toByteArray_inj.mp (Entry.file.inj hbefore)).symm

end KernelControls.BootRun
