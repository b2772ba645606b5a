import KernelControls.Proofs.Backends.Correspondence

/-!
# The bench and the files are interchangeable

An engine on a bench and an engine on the files of a site give the same answers, command after
command, if bench and site correspond.  This is why what was tried out on a bench can be trusted on
a machine.

## Strategy

The backends are a `Simulation`, so one command is answered alike if the nodes it writes are there.
They are: a session is opened on nodes that are there, and no command removes a node
(`Engine.Attached`).  A run is one command after the other.
-/

namespace KernelControls

namespace Engine

/-! ## Engines on a bench -/

/-- An engine whose sessions edit nodes of the bench. -/
structure Attached (engine : Engine) (bench : Bench) : Prop where
  faithful : engine.Faithful
  present : ∀ name session, engine.session? name = some session →
    ∀ edit ∈ session.edits, (bench.value? edit.control.path).isSome = true

theorem attached_start (catalog : Catalog) (opening : Opening) (bench : Bench) :
    (Engine.start catalog opening).Attached bench where
  faithful := faithful_start catalog opening
  present name session hopen := by cases hopen

section Lines

variable {World : Type} [NodeAccess (StateM World)] [PreferenceAccess (StateM World)]

/-- Whether a command that writes a line of values finds the family supported. -/
def lineSupported (engine : Engine) (world : World) : Command → Bool
  | .writeLine id _ => (perform (engine.isSupported id) world).1
  | _ => true

/-- Whether all lines of values in a run are written to families that are supported then. -/
def linesSupported (engine : Engine) : List Command → World → Bool
  | [], _ => true
  | command :: rest, world =>
    let next := perform (engine.step command) world
    engine.lineSupported world command && next.1.2.linesSupported rest next.2

end Lines

variable {engine : Engine} {bench : Bench} {store : FileStore FileTree}

/-- The nodes of a family that is supported are on the bench. -/
theorem present_of_isSupported {family : Family}
    (hsupported : (perform family.isSupported bench).1 = true) {control : Control}
    (hcontrol : control ∈ family.controls) : (bench.value? control.path).isSome = true := by
  have hanswer : (bench.value? control.path).isSome = (scene bench).tree.isPresent control.path :=
    LawfulNodes.isPresent_answer control.path bench
  rw [hanswer]
  exact isPresent_of_isSupported bench hsupported control hcontrol

/-- Where no node is lost, an engine stays attached. -/
theorem Attached.step (attached : engine.Attached bench) (command : Command)
    (hkept : ∀ path, (bench.value? path).isSome = true →
      ((perform (engine.step command) bench).2.value? path).isSome = true) :
    (perform (engine.step command) bench).1.2.Attached (perform (engine.step command) bench).2 := by
  refine ⟨attached.faithful.step command bench, fun name session hopen edit hedit => hkept _ ?_⟩
  have hcontrol : edit.control ∈ session.edits.map Edit.control := List.mem_map_of_mem hedit
  rcases session?_after engine command bench hopen with
    ⟨earlier, hbefore, hframe⟩ | ⟨id, coordinator, family, -, -, hopenable, rfl⟩
  · -- A session that was open before edits the same controls.
    rw [hframe.controls] at hcontrol
    obtain ⟨before, hmem, hsame⟩ := List.mem_map.mp hcontrol
    rw [← hsame]
    exact attached.present name earlier hbefore before hmem
  · -- A new session was opened on a family that is supported.
    rw [show (engine.newSession family _ _).edits.map Edit.control = family.controls from
      control_captureEdits _ _ _] at hcontrol
    exact present_of_isSupported hopenable.supported hcontrol

/-- What an attached engine edits is known to be there. -/
theorem Attached.attends (attached : engine.Attached bench)
    (hnodes : ∀ path ∈ engine.catalog.paths, Path.IsNode path) :
    (Bench.interchange engine.opening hnodes).Attends
      (fun path => (bench.value? path).isSome = true) engine where
  opening := rfl
  names _ hfamily _ hcontrol := Catalog.mem_paths hfamily hcontrol
  sessions name session hopen := by
    obtain ⟨hopening, family, hknown, -, hcontrols⟩ := attached.faithful name session hopen
    refine ⟨hopening, fun control hcontrol => ⟨?_, ?_⟩⟩
    · rw [hcontrols] at hcontrol
      exact Catalog.mem_paths (List.mem_of_find?_eq_some hknown) hcontrol
    · obtain ⟨edit, hedit, rfl⟩ := List.mem_map.mp hcontrol
      exact attached.present name session hopen edit hedit

/-! ## Commands and runs -/

section Alike

variable (hnodes : ∀ path ∈ engine.catalog.paths, Path.IsNode path)
  (corresponds : bench.Corresponds engine.catalog engine.opening store)
  (attached : engine.Attached bench)
include hnodes corresponds attached

theorem step_alike {command : Command} (hline : engine.lineSupported bench command = true)
    (hbench : (perform (engine.step command) (Watched.mk bench false)).2.Calm)
    (hstore : (perform (engine.step command) (Watched.mk store false)).2.Calm) :
    let mocked := perform (engine.step command) bench
    let real := perform (engine.step command) store
    real.1 = mocked.1 ∧ mocked.2.Corresponds engine.catalog engine.opening real.2 ∧
      mocked.1.2.Attached mocked.2 := by
  intro mocked real
  -- A line goes to a supported family, all of whose nodes are there.
  have hwritten : ∀ id line family, command = .writeLine id line → engine.family id = .ok family →
      ∀ control ∈ family.controls, (bench.value? control.path).isSome = true := by
    rintro id line family rfl hfamily control hcontrol
    have hsupported : (perform (engine.isSupported id) bench).1 = true := hline
    obtain ⟨hknown, hid⟩ := engine.get?_of_family hfamily
    unfold isSupported at hsupported
    rw [← hid, hknown] at hsupported
    exact present_of_isSupported hsupported hcontrol
  have hstep := Simulation.step (attached.attends hnodes) hwritten
  obtain ⟨hanswer, linked⟩ := hstep.same ⟨bench, false⟩ ⟨store, false⟩
    ⟨corresponds, fun _ hpresent => hpresent⟩ hbench hstore
  rw [(Watched.step_eq engine _ command hbench).2, (Watched.step_eq engine _ command hstore).2]
    at hanswer linked
  exact ⟨hanswer, linked.corresponds, attached.step command linked.present⟩

end Alike

/-- **The bench and the files are interchangeable.**  If bench and site correspond and neither
refuses a write or a saving, every command of a run is answered alike, and bench and site correspond
after it.  Lines of values must go to families that are supported. -/
theorem backends_interchangeable (engine : Engine) (commands : List Command) (bench : Bench)
    (store : FileStore FileTree) (hnodes : ∀ path ∈ engine.catalog.paths, Path.IsNode path)
    (corresponds : bench.Corresponds engine.catalog engine.opening store)
    (attached : engine.Attached bench) (hlines : engine.linesSupported commands bench = true)
    (hbench : engine.refuses commands bench = false)
    (hstore : engine.refuses commands store = false) :
    let mocked := perform (engine.run commands) bench
    let real := perform (engine.run commands) store
    real.1 = mocked.1 ∧ mocked.2.Corresponds engine.catalog engine.opening real.2 ∧
      mocked.1.2.Attached mocked.2 := by
  induction commands generalizing engine bench store with
  | nil => exact ⟨rfl, corresponds, attached⟩
  | cons command rest ih =>
      obtain ⟨hline, hlines⟩ := Bool.and_eq_true_iff.mp hlines
      obtain ⟨hbench, hbenchRest⟩ := engine.calm_of_refuses_cons hbench
      obtain ⟨hstore, hstoreRest⟩ := engine.calm_of_refuses_cons hstore
      obtain ⟨hanswer, hcorresponds, hattached⟩ :=
        step_alike hnodes corresponds attached hline hbench hstore
      -- The engine of the rest has the same catalog and opening, and both sides agree on it.
      obtain ⟨hcatalog, hopening⟩ := step_keeps_catalog engine command bench
      rw [← hcatalog, ← hopening] at hcorresponds
      rw [← hcatalog] at hnodes
      rw [hanswer] at hstoreRest
      obtain ⟨hanswers, hafter, hends⟩ :=
        ih _ _ _ hnodes hcorresponds hattached hlines hbenchRest hstoreRest
      rw [hcatalog, hopening] at hafter
      rw [engine.run_cons, engine.run_cons, hanswer, hanswers]
      exact ⟨rfl, hafter, hends⟩

/-- A machine with a vibrator and no image scenarios. -/
theorem vibrator_interchangeable :
    let engine := Engine.start ⟨[.imageScenario, .vibration]⟩ 0
    let commands : List Command :=
      [.listSupported, .openSession "editor" "vibration" none, .setLive "editor" "intensity" 70,
        .commit "editor", .writeLine "vibration" "80", .restore none, .showCurrent "vibration"]
    let bench : Bench := { nodes := [("/sys/class/timed_output/vibrator/pwm_value", "50")] }
    let device := ["work", "root", "sys", "class", "timed_output", "vibrator"]
    let store : FileStore FileTree := ⟨.start "root" "data/preferences.toml", ⟨["work"],
      (device.inits.map fun location => (location, .directory)) ++
        [(device ++ ["pwm_value"], .file "50".toUTF8)]⟩⟩
    (perform (engine.run commands) store).1 = (perform (engine.run commands) bench).1 := by
  intro engine commands bench device store
  have corresponds : bench.Corresponds engine.catalog engine.opening store :=
    Bench.corresponds_of_find (by decide +kernel) (by decide +kernel) (by decide +kernel)
      (by decide +kernel)
  have alike := backends_interchangeable engine commands bench store
    (by decide +kernel) corresponds (attached_start _ _ _) (by decide +kernel) (by decide +kernel)
    (by decide +kernel)
  exact alike.1

/-! ## Where they are not -/

/-- Bench and files in a relation are told apart by no run in which nothing is refused. -/
def AnswersAlike (related : Engine → Bench → FileStore FileTree → Prop) : Prop :=
  ∀ (engine : Engine) (commands : List Command) (bench : Bench) (store : FileStore FileTree),
    (∀ path ∈ engine.catalog.paths, Path.IsNode path) →
    (∀ path ∈ engine.catalog.paths, ∀ other ∈ engine.catalog.paths,
      Path.components path <+: Path.components other → Path.Same path other) →
    engine.Faithful → related engine bench store → engine.linesSupported commands bench = true →
    engine.refuses commands bench = false → engine.refuses commands store = false →
    (perform (engine.run commands) store).1 = (perform (engine.run commands) bench).1

/-- A family of one level, in a node at the top. -/
def levelOf (id : String) (mode : Mode) : Family where
  id := id
  name := id
  mode := mode
  controls := [{ name := "level", path := "/" ++ id, maximum := 9, default := 1 }]

/-- A site in which something stands in the place of a lamp's node. -/
def siteOfLamp (nodeRoot preferencePath : String) (entry : Entry) : FileStore FileTree :=
  ⟨.start nodeRoot preferencePath, ⟨["work"],
    [(["work"], .directory), (["work", "root"], .directory), (["work", "root", "lamp"], entry)]⟩⟩

/-- A directory in the place of a node counts as a node. -/
theorem told_apart_by_directory : ¬AnswersAlike fun engine bench store =>
    bench.Matches engine.catalog engine.opening store ∧ engine.Attached bench := by
  intro halike
  let engine := Engine.start ⟨[levelOf "lamp" .direct]⟩ 0
  let store := siteOfLamp "root" "data/preferences.toml" .directory
  have hdirectory : ∀ path ∈ engine.catalog.paths,
      store.files.read (store.nodeFile path) = .error .isDirectory := by decide +kernel
  have hmatches : Bench.Matches {} engine.catalog 0 store := by
    refine ⟨fun path hpath text => ?_, by decide +kernel, by decide +kernel⟩
    rw [hdirectory path hpath]
    exact iff_of_false nofun nofun
  -- The files say that the lamp is supported, and the bench says that it is not.
  have hsame := halike engine [.askSupported "lamp"] {} store (by decide +kernel)
    (by decide +kernel) (faithful_start _ _) ⟨hmatches, attached_start _ _ _⟩ (by decide +kernel)
    (by decide +kernel) (by decide +kernel)
  exact absurd (congrArg Prod.fst hsame) (by decide +kernel)

/-- If the path of the preferences passes through the root, saving makes a directory in the place of
a node. -/
theorem told_apart_by_saving : ¬AnswersAlike fun engine bench store =>
    bench.Matches engine.catalog engine.opening store ∧ engine.Attached bench ∧
      ∀ path ∈ engine.catalog.paths, bench.value? path = none →
        store.files.find (store.nodeFile path) = .error .noEntry := by
  intro halike
  let engine := Engine.start ⟨[levelOf "lamp" .direct, levelOf "made" .direct]⟩ 0
  let store := siteOfLamp "root" "root/made/../../data/preferences.toml" (.file "0".toUTF8)
  let bench : Bench := { nodes := [("/lamp", "0")] }
  have hfind : ∀ path ∈ engine.catalog.paths, store.files.find (store.nodeFile path) =
      store.files.holding (store.nodeFile path) (bench.value? path) := by decide +kernel
  have hmatches : bench.Matches engine.catalog 0 store :=
    ⟨fun path hpath => FileTree.read_of_find (hfind path hpath), by decide +kernel,
      by decide +kernel⟩
  have hsame := halike engine [.applyDirect "lamp" "level" 2, .askSupported "made"] bench store
    (by decide +kernel) (by decide +kernel) (faithful_start _ _)
    ⟨hmatches, attached_start _ _ _, by decide +kernel⟩ (by decide +kernel) (by decide +kernel)
    (by decide +kernel)
  exact absurd (congrArg Prod.fst hsame) (by decide +kernel)

/-- If a session is open on a node that is gone, as it is with the way to the root, a commit makes
the way anew, and the node is back. -/
theorem told_apart_by_lost_node : ¬AnswersAlike fun engine bench store =>
    bench.Corresponds engine.catalog engine.opening store := by
  intro halike
  let bench : Bench := { nodes := [("/lamp", "0")] }
  let started := Engine.start ⟨[levelOf "lamp" .session]⟩ 0
  let opening := Command.openSession "editor" "lamp" none
  let engine := (perform (started.step opening) bench).1.2
  let store := siteOfLamp "data/../root" "data/preferences.toml" (.file "0".toUTF8)
  have hcorresponds : Bench.Corresponds {} engine.catalog engine.opening store :=
    Bench.corresponds_of_find (by decide +kernel) (by decide +kernel) (by decide +kernel)
      (by decide +kernel)
  have hsame := halike engine [.commit "editor", .askSupported "lamp"] {} store (by decide +kernel)
    (by decide +kernel) ((faithful_start _ _).step opening bench) hcorresponds (by decide +kernel)
    (by decide +kernel) (by decide +kernel)
  exact absurd (congrArg (fun result => result.1) hsame) (by decide +kernel)

/-- It is not enough that bench and files have the same texts and the same preferences, nor that
nothing else is in the place of a node, nor that sessions are open on nodes of the catalog. -/
theorem matching_backends_told_apart :
    ¬AnswersAlike (fun engine bench store =>
      bench.Matches engine.catalog engine.opening store ∧ engine.Attached bench) ∧
    ¬AnswersAlike (fun engine bench store =>
      bench.Matches engine.catalog engine.opening store ∧ engine.Attached bench ∧
        ∀ path ∈ engine.catalog.paths, bench.value? path = none →
          store.files.find (store.nodeFile path) = .error .noEntry) ∧
    ¬AnswersAlike (fun engine bench store =>
      bench.Corresponds engine.catalog engine.opening store) :=
  ⟨told_apart_by_directory, told_apart_by_saving, told_apart_by_lost_node⟩

end Engine

end KernelControls
