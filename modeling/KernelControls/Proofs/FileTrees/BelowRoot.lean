import KernelControls.Proofs.Backends.Correspondence
import KernelControls.Proofs.Boot.SiteRestoring
import Mathlib.Algebra.Order.BigOperators.Group.List
import Mathlib.Algebra.Order.Group.Nat

/-!
# Nodes below their root

The path of a node is put behind the root of the nodes without its own root, and with every `..`
that it has.  So it names something at or below the root, whatever the root is, unless somewhere on
the way it has stepped back more often than it has gone on.

## Strategy

A path is normalised on its text alone, so no tree is asked (`normal`).  Behind a root, the
components of a path act on the normalised root (`normal_resolve`).  As long as they do not climb,
they add and take away names of their own only, behind those of the root (`after_below`).  When they
climb, they take away a name of the root, and if the path has no such name it does not come back
(`notMem_follow_of_climbs`).  What is below the root in the text is below it in every tree, because
a walk that ends has gone where the components say.  So no write to a node leaves a trace outside
the root (`SameOutside.nodeWrite`), and neither does a run of commands that only write nodes.
-/

namespace KernelControls.Path

/-! ## Normalised paths -/

/-- A path without `.` and with `..` only in front: where it starts, how often it steps back first,
and the names it then goes along. -/
structure Normal where
  absolute : Bool
  back : Nat
  names : List String
  deriving DecidableEq, Repr

namespace Normal

/-- One component more.  A step back takes away the last name, and above the root there is only the
root. -/
def step (normal : Normal) : Component → Normal
  | .root => ⟨true, 0, []⟩
  | .here => normal
  | .up =>
    if normal.names ≠ [] then { normal with names := normal.names.dropLast }
    else if normal.absolute then normal
    else { normal with back := normal.back + 1 }
  | .name text => { normal with names := normal.names ++ [text] }

/-- More components, one after the other. -/
def after (normal : Normal) (components : List Component) : Normal :=
  components.foldl step normal

theorem after_append (normal : Normal) (before later : List Component) :
    normal.after (before ++ later) = (normal.after before).after later :=
  List.foldl_append

/-- From the root, the names are those of the location that the components lead to. -/
theorem after_root (names : List String) (components : List Component) :
    after ⟨true, 0, names⟩ components = ⟨true, 0, follow names components⟩ := by
  induction components generalizing names with
  | nil => rfl
  | cons component rest ih =>
      have hstep : step ⟨true, 0, names⟩ component = ⟨true, 0, move names component⟩ := by
        cases component with
        | root => rfl
        | here => rfl
        | name text => rfl
        | up =>
            unfold step move
            by_cases hnames : names = []
            · rw [hnames]
              rfl
            · rw [if_pos hnames]
      show after (step ⟨true, 0, names⟩ component) rest = _
      rw [hstep]
      exact ih _

end Normal

/-- A path with `.` and `..` taken out of its text. -/
def normal (path : String) : Normal :=
  Normal.after ⟨false, 0, []⟩ (components path)

/-- Whether a path, once normalised, is the normalised root or goes on from it. -/
def AtOrBelow (root path : String) : Prop :=
  (normal path).absolute = (normal root).absolute ∧ (normal path).back = (normal root).back ∧
    (normal root).names <+: (normal path).names

instance (root path : String) : Decidable (AtOrBelow root path) :=
  inferInstanceAs (Decidable (_ ∧ _ ∧ _))

theorem normal_eq (path : String) :
    normal path = Normal.after ⟨isAbsolute path, 0, []⟩ (named path) := by
  unfold normal components
  cases isAbsolute path with
  | true => rfl
  | false =>
      simp only [Bool.false_eq_true, if_false]
      split <;> rfl

/-- Behind a root, the components of a path act on the normalised root. -/
theorem normal_resolve (root path : String) :
    normal (resolve root path) = (normal root).after (named path) := by
  rw [normal_eq, isAbsolute_resolve, named_resolve, Normal.after_append, ← normal_eq]

/-! ## Climbing -/

/-- Whether components lead back past a location, from a place as many names below it as the depth
says. -/
def climbs : Nat → List Component → Bool
  | _, [] => false
  | _, .root :: _ => true
  | depth, .here :: rest => climbs depth rest
  | 0, .up :: _ => true
  | depth + 1, .up :: rest => climbs depth rest
  | depth, .name _ :: rest => climbs (depth + 1) rest

/-- A path climbs if somewhere on the way it has stepped back more often than it has gone on. -/
def Climbs (path : String) : Prop :=
  climbs 0 (named path) = true

instance (path : String) : Decidable (Climbs path) :=
  inferInstanceAs (Decidable (_ = true))

/-- Components that do not climb keep what they are behind. -/
theorem Normal.after_below (absolute : Bool) (back : Nat) (base depth : List String)
    {components : List Component} (hstays : climbs depth.length components = false) :
    after ⟨absolute, back, base ++ depth⟩ components =
      ⟨absolute, back, base ++ follow depth components⟩ := by
  induction components generalizing depth with
  | nil => rfl
  | cons component rest ih =>
      cases component with
      | root => cases hstays
      | here => exact ih depth hstays
      | name text =>
          have hlonger : climbs (depth ++ [text]).length rest = false := by
            rw [List.length_append]
            exact hstays
          calc after ⟨absolute, back, base ++ depth⟩ (.name text :: rest)
              = after ⟨absolute, back, base ++ (depth ++ [text])⟩ rest := by
                rw [← List.append_assoc]
                rfl
            _ = _ := ih _ hlonger
      | up =>
          -- To step back is no climb only if there is a name to take away.
          rcases List.eq_nil_or_concat' depth with rfl | ⟨shorter, last, rfl⟩
          · cases hstays
          · have hshorter : climbs shorter.length rest = false := by
              rw [List.length_append] at hstays
              exact hstays
            have hstep : step ⟨absolute, back, base ++ (shorter ++ [last])⟩ .up =
                ⟨absolute, back, base ++ shorter⟩ := by
              simp [step, ← List.append_assoc]
            have hmove : move (shorter ++ [last]) .up = shorter := List.dropLast_concat
            show after (step _ .up) rest = ⟨absolute, back, base ++ follow (move _ .up) rest⟩
            rw [hstep, hmove]
            exact ih shorter hshorter

theorem follow_below (base : List String) {components : List Component}
    (hstays : climbs 0 components = false) :
    follow base components = base ++ follow [] components := by
  have hbelow := Normal.after_below true 0 base [] hstays
  rw [List.append_nil, Normal.after_root] at hbelow
  exact congrArg Normal.names hbelow

theorem atOrBelow_of_not_climbs {path : String} (hstays : ¬Climbs path) (root : String) :
    AtOrBelow root (resolve root path) := by
  have hbelow := Normal.after_below (normal root).absolute (normal root).back (normal root).names
    [] (Bool.eq_false_iff.mpr hstays)
  rw [List.append_nil] at hbelow
  unfold AtOrBelow
  rw [normal_resolve, hbelow]
  exact ⟨rfl, rfl, List.prefix_append _ _⟩

/-! ## A name that does not come back -/

theorem notMem_concat {fresh text : String} {names : List String} (hnames : fresh ∉ names)
    (hother : Component.name fresh ≠ .name text) : fresh ∉ names ++ [text] := by
  intro hmem
  rcases List.mem_append.mp hmem with hold | hnew
  · exact hnames hold
  · exact hother (congrArg Component.name (List.mem_singleton.mp hnew))

section Fresh

variable {fresh : String} {components : List Component} (hfresh : .name fresh ∉ components)
include hfresh

theorem notMem_follow {location : List String} (hlocation : fresh ∉ location) :
    fresh ∉ follow location components := by
  induction components generalizing location with
  | nil => exact hlocation
  | cons component rest ih =>
      obtain ⟨hother, hrest⟩ := List.ne_and_not_mem_of_not_mem_cons hfresh
      have hmove : fresh ∉ move location component := by
        cases component with
        | root => exact List.not_mem_nil
        | here => exact hlocation
        | up => exact fun hmem => hlocation ((List.dropLast_sublist _).subset hmem)
        | name text => exact notMem_concat hlocation hother
      -- No component brings the name back once it is gone.
      exact ih hrest hmove

theorem notMem_follow_of_climbs (depth : List String)
    (hclimbs : climbs depth.length components = true) (hdepth : fresh ∉ depth) :
    fresh ∉ follow (fresh :: depth) components := by
  induction components generalizing depth with
  | nil => cases hclimbs
  | cons component rest ih =>
      obtain ⟨hother, hrest⟩ := List.ne_and_not_mem_of_not_mem_cons hfresh
      cases component with
      | root => exact notMem_follow hrest List.not_mem_nil
      | here => exact ih hrest depth hclimbs hdepth
      | name text =>
          have hlonger : climbs (depth ++ [text]).length rest = true := by
            rw [List.length_append]
            exact hclimbs
          exact ih hrest _ hlonger (notMem_concat hdepth hother)
      | up =>
          rcases List.eq_nil_or_concat' depth with rfl | ⟨shorter, last, rfl⟩
          · -- Here the name is taken away.
            exact notMem_follow hrest List.not_mem_nil
          · have hshorter : climbs shorter.length rest = true := by
              rw [List.length_append] at hclimbs
              exact hclimbs
            have hmove : move (fresh :: (shorter ++ [last])) .up = fresh :: shorter := by
              show ((fresh :: shorter) ++ [last]).dropLast = _
              exact List.dropLast_concat
            show fresh ∉ follow (move _ .up) rest
            rw [hmove]
            exact ih hrest shorter hshorter fun hmem => hdepth (List.mem_append_left _ hmem)

end Fresh

theorem plain_name {text : String} (hslash : '/' ∉ text.toList) (hempty : text ≠ "")
    (hhere : text ≠ ".") (hup : text ≠ "..") : (Component.name text).Plain :=
  ⟨hslash, Component.ofPiece?_eq_name hempty hhere hup⟩

/-- There is a name that no component of a list is: one that is longer than all of them. -/
theorem exists_fresh (components : List Component) :
    ∃ fresh, (Component.name fresh).Plain ∧ .name fresh ∉ components := by
  obtain ⟨total, htotal⟩ : ∃ total, ∀ component ∈ components, component.text.length ≤ total :=
    ⟨(components.map fun component => component.text.length).sum, fun component hmem =>
      List.le_sum_of_mem (List.mem_map.mpr ⟨component, hmem, rfl⟩)⟩
  obtain ⟨fresh, hfresh⟩ : ∃ fresh : String, fresh.toList = List.replicate (total + 1) 'a' :=
    ⟨_, String.toList_ofList⟩
  have hother : ∀ text : String, text.toList.head? ≠ some 'a' → fresh ≠ text := by
    rintro text hhead rfl
    exact hhead (by rw [hfresh]; rfl)
  refine ⟨fresh, plain_name ?_ ?_ ?_ ?_, fun hmem => ?_⟩
  · -- It is made of one letter only, so it has no slash and is none of the special pieces.
    rw [hfresh]
    exact fun hmem => absurd (List.eq_of_mem_replicate hmem) (by decide)
  · exact hother _ (by decide)
  · exact hother _ (by decide)
  · exact hother _ (by decide)
  · have hshort : fresh.length ≤ total := htotal _ hmem
    have hlong : fresh.length = total + 1 := by
      rw [← String.length_toList, hfresh, List.length_replicate]
    omega

theorem atOrBelow_every_root_iff (path : String) :
    (∀ root, AtOrBelow root (resolve root path)) ↔ ¬Climbs path := by
  refine ⟨fun hbelow hclimbs => ?_, atOrBelow_of_not_climbs⟩
  -- Below a root with a name of its own, a path that climbs loses the name for good.
  obtain ⟨fresh, hname, hfresh⟩ := exists_fresh (named path)
  have hplain : ∀ component ∈ [Component.name fresh], component.Plain :=
    List.forall_mem_singleton.mpr hname
  have hroot : normal (ofComponents [.root, .name fresh]) = ⟨true, 0, [fresh]⟩ := by
    unfold normal
    rw [components_root hplain]
    rfl
  obtain ⟨-, -, hbegins⟩ := hbelow (ofComponents [.root, .name fresh])
  rw [normal_resolve, hroot, Normal.after_root] at hbegins
  exact notMem_follow_of_climbs hfresh [] hclimbs List.not_mem_nil
    (hbegins.subset List.mem_cons_self)

/-- A path may climb and end below one root all the same, but not below another. -/
example : Climbs "/../chroot/node" ∧
    AtOrBelow "/srv/chroot" (resolve "/srv/chroot" "/../chroot/node") ∧
    ¬AtOrBelow "/srv/test" (resolve "/srv/test" "/../chroot/node") := by decide +kernel

end KernelControls.Path

/-! ## The nodes of a site -/

namespace KernelControls

namespace FileTree

variable {tree changed : FileTree} {root path : String} {location : Location} {entry : Entry}

/-- A text that is read is the whole of a file. -/
theorem find_of_readText {text : String}
    (hread : (perform (FileSystem.readText path) tree).1 = .ok text) :
    ∃ location, tree.find path = .ok (location, .file text.toUTF8) := by
  rw [LawfulFiles.readText_run] at hread
  cases hcontent : (perform (FileSystem.read path) tree).1 with
  | error cause => rw [hcontent] at hread; cases hread
  | ok content =>
      have hsight : Sight.ofContent content = .text text := by
        rw [hcontent] at hread
        dsimp only [Except.bind] at hread
        unfold Sight.ofContent
        cases hseen : String.fromUTF8? content with
        | none => rw [hseen] at hread; cases hread
        | some seen =>
            rw [hseen] at hread
            exact congrArg Sight.text (Except.ok.inj hread)
      rw [Sight.ofContent_eq_text.mp hsight] at hcontent
      exact read_eq_ok.mp hcontent

section Stays

variable (hstays : ¬Path.Climbs path)
include hstays

/-- In every tree, a path that does not climb leads to the root or on from there. -/
theorem lead_below : tree.lead root <+: tree.lead (Path.resolve root path) := by
  have hlead : tree.lead (Path.resolve root path) =
      tree.lead root ++ Path.follow [] (Path.named path) := by
    rw [lead_eq, origin_resolve, Path.named_resolve, Path.follow_append, ← lead_eq]
    exact Path.follow_below _ (Bool.eq_false_iff.mpr hstays)
  -- Nothing that follows the root takes one of its names away.
  rw [hlead]
  exact List.prefix_append _ _

theorem found_below (hfind : tree.find (Path.resolve root path) = .ok (location, entry)) :
    tree.lead root <+: location := by
  rw [location_of_find hfind]
  exact lead_below hstays

theorem written_below {content : ByteArray}
    (hwrite : tree.write (Path.resolve root path) content = .ok changed) :
    changed.workingDirectory = tree.workingDirectory ∧ ∀ place, ¬tree.lead root <+: place →
      changed.entryAt? place = tree.entryAt? place := by
  obtain ⟨hroot, -, rfl⟩ := write_eq_ok hwrite
  refine ⟨rfl, fun place houtside => ?_⟩
  -- The one place that changed is where the path leads.
  rw [entryAt?_set _ _ _ _ hroot, if_neg]
  rintro rfl
  exact houtside (lead_below hstays)

end Stays

end FileTree

namespace FileStore

variable {path : String}

/-- The location of the root of the nodes. -/
def base (store : FileStore FileTree) : Location :=
  store.files.lead store.site.nodeRoot

/-- What is asked of a node and what is written to it concern only what is at the root of the nodes
or below it. -/
structure NodeWithin (store : FileStore FileTree) (path : String) : Prop where
  present : (perform (NodeAccess.isPresent path) store).1 = true →
    ∃ location, store.base <+: location ∧ store.files.entryAt? location ≠ none
  read : ∀ text, (perform (NodeAccess.read path) store).1 = .ok text →
    ∃ location, store.base <+: location ∧
      store.files.entryAt? location = some (.file text.toUTF8)
  written : ∀ text location, ¬store.base <+: location →
    (perform (NodeAccess.write path text) store).2.files.entryAt? location =
      store.files.entryAt? location

/-- Everything that is not at the root of the nodes or below it is as it was, and the root is where
it was. -/
structure SameOutside (before after : FileStore FileTree) : Prop where
  nodeRoot : after.site.nodeRoot = before.site.nodeRoot
  workingDirectory : after.files.workingDirectory = before.files.workingDirectory
  entries : ∀ location, ¬before.base <+: location →
    after.files.entryAt? location = before.files.entryAt? location

namespace SameOutside

variable {before middle after : FileStore FileTree}

theorem refl (store : FileStore FileTree) : SameOutside store store :=
  ⟨rfl, rfl, fun _ _ => rfl⟩

theorem base (same : SameOutside before after) : after.base = before.base := by
  unfold FileStore.base FileTree.lead
  rw [same.nodeRoot, same.workingDirectory]

theorem trans (first : SameOutside before middle) (second : SameOutside middle after) :
    SameOutside before after where
  nodeRoot := second.nodeRoot.trans first.nodeRoot
  workingDirectory := second.workingDirectory.trans first.workingDirectory
  entries location houtside := by
    have hmiddle : ¬middle.base <+: location := by
      rw [first.base]
      exact houtside
    exact (second.entries location hmiddle).trans (first.entries location houtside)

theorem nodeWrite (hstays : ¬Path.Climbs path) (text : String) (store : FileStore FileTree) :
    SameOutside store (perform (NodeAccess.write path text) store).2 := by
  rw [write_node]
  show SameOutside store { store with
    files := (store.files.settle (store.files.write (store.nodeFile path) text.toUTF8)).2 }
  cases hwrite : store.files.write (store.nodeFile path) text.toUTF8 with
  | error cause => exact refl store
  | ok changed =>
      obtain ⟨hworking, hentries⟩ := FileTree.written_below hstays hwrite
      exact ⟨rfl, hworking, hentries⟩

end SameOutside

theorem readText_of_nodeRead {store : FileStore FileTree} {text : String}
    (hread : (perform (NodeAccess.read path) store).1 = .ok text) :
    (perform (FileSystem.readText (store.nodeFile path)) store.files).1 = .ok text :=
  NodeFile.answer_eq_ok.mp hread

theorem nodeWithin (hstays : ¬Path.Climbs path) (store : FileStore FileTree) :
    store.NodeWithin path where
  present hpresent := by
    replace hpresent : (store.files.find (store.nodeFile path)).isOk = true := hpresent
    cases hfind : store.files.find (store.nodeFile path) with
    | error cause => rw [hfind] at hpresent; cases hpresent
    | ok found =>
        obtain ⟨location, entry⟩ := found
        have hentry : store.files.entryAt? location = some entry :=
          (FileTree.find_iff_placeOf.mp hfind).2
        refine ⟨location, FileTree.found_below hstays hfind, ?_⟩
        rw [hentry]
        exact Option.some_ne_none entry
  read text hread := by
    obtain ⟨location, hfind⟩ := FileTree.find_of_readText (readText_of_nodeRead hread)
    exact ⟨location, FileTree.found_below hstays hfind, (FileTree.find_iff_placeOf.mp hfind).2⟩
  written text location houtside := (SameOutside.nodeWrite hstays text store).entries _ houtside

/-- Questions and writes to nodes whose paths do not climb leave everything outside the root. -/
theorem harmless_outside (before : FileStore FileTree) :
    Harmless (SameOutside before) fun path => ¬Path.Climbs path where
  isPresent path store hsame := by
    rw [run_nodeIsPresent]
    exact hsame
  read path store hsame := by
    rw [run_nodeRead]
    exact hsame
  saved? opening key store hsame := by
    show SameOutside before (store.run (PreferenceAccess.saved? opening key)).2
    rw [run_saved?]
    have hlooked : SameOutside store (store.looked opening) :=
      ⟨by simp, by simp, fun _ _ => by simp⟩
    exact hsame.trans hlooked
  write path text hstays store hsame := hsame.trans (.nodeWrite hstays text store)

end FileStore

/-! ## Runs of commands -/

/-- Whether a command saves preferences. -/
def Command.saves : Command → Bool
  | .commit _ | .applyDirect .. => true
  | _ => false

theorem step_sameOutside {engine : Engine} {command : Command} {store : FileStore FileTree}
    (confined : engine.Confined fun path => ¬Path.Climbs path) (hsaves : command.saves = false) :
    store.SameOutside (perform (engine.step command) store).2 := by
  refine store.harmless_outside.step confined ?_ ?_ store (.refl store)
  · rintro name rfl
    cases hsaves
  · rintro id name value rfl
    cases hsaves

theorem run_sameOutside {engine : Engine} {commands : List Command} {store : FileStore FileTree}
    (confined : engine.Confined fun path => ¬Path.Climbs path)
    (hsaves : ∀ command ∈ commands, command.saves = false) :
    store.SameOutside (perform (engine.run commands) store).2 := by
  induction commands generalizing engine store with
  | nil => exact .refl store
  | cons command rest ih =>
      obtain ⟨hfirst, hrest⟩ := List.forall_mem_cons.mp hsaves
      exact (step_sameOutside confined hfirst).trans (ih (confined.step command store) hrest)

/-- **Nodes whose paths do not climb stay below their root, and no others do.**  Behind every root,
such a path is at or below the root in its text, and what is asked of its node or written to it is
at or below the root in the tree.  So whatever commands an engine is given, short of those that save
preferences, nothing changes outside the root. -/
theorem nodes_stay_below_root (path : String) (store : FileStore FileTree) :
    ((∀ root, Path.AtOrBelow root (Path.resolve root path)) ↔ ¬Path.Climbs path) ∧
      (¬Path.Climbs path → store.NodeWithin path) ∧
      ∀ (engine : Engine) (commands : List Command),
        engine.Confined (fun path => ¬Path.Climbs path) →
        (∀ command ∈ commands, command.saves = false) →
          store.SameOutside (perform (engine.run commands) store).2 := by
  refine ⟨Path.atOrBelow_every_root_iff path, fun hstays => ?_, ?_⟩
  · exact FileStore.nodeWithin hstays store
  · intro engine commands hconfined hsaves
    exact run_sameOutside hconfined hsaves

/-- A family whose node has a path that steps back, after it went down. -/
def lampFamily : Family where
  id := "lamp"
  name := "Lamp"
  mode := .session
  controls := [{ name := "level", path := "/lamps/../level", maximum := 9, default := 1 }]

/-- A root with the lamp's node in it, and a file beside the root. -/
def lampBesideFile : FileStore FileTree where
  site := .start "root" "preferences.toml"
  files := ⟨[], [(["root"], .directory), (["root", "lamps"], .directory),
    (["root", "level"], .file "3".toUTF8), (["outside"], .file "0".toUTF8)]⟩

/-- The lamp is previewed, given up and set.  Its node changes, and nothing outside the root. -/
theorem lamp_stays_below_root :
    let engine := Engine.start ⟨[lampFamily]⟩ 0
    let commands : List Command := [.openSession "evening" "lamp" none,
      .setLive "evening" "level" 7, .cancel "evening", .writeLine "lamp" "5"]
    let after := (perform (engine.run commands) lampBesideFile).2
    Path.AtOrBelow "root" (Path.resolve "root" "/lamps/../level") ∧
      lampBesideFile.NodeWithin "/lamps/../level" ∧
      after.files.entryAt? ["root", "level"] = some (.file "5".toUTF8) ∧
      lampBesideFile.SameOutside after := by
  intro engine commands after
  have hstays : ¬Path.Climbs "/lamps/../level" := by decide +kernel
  have hconfined : engine.Confined fun path => ¬Path.Climbs path :=
    ⟨faithful_start _ _, by decide +kernel⟩
  obtain ⟨hsafe, hwithin, hruns⟩ := nodes_stay_below_root "/lamps/../level" lampBesideFile
  refine ⟨hsafe.mpr hstays "root", hwithin hstays, by decide +kernel, ?_⟩
  exact hruns engine commands hconfined (by decide)

/-- A family whose only node lies beside the root. -/
def strayFamily : Family where
  id := "stray"
  name := "Stray"
  mode := .direct
  controls := [{ name := "level", path := "/../outside", maximum := 9, default := 1 }]

/-- A directory for the nodes, and a file beside it. -/
def nodesBesideFile : FileStore FileTree where
  site := .start "root" "preferences.toml"
  files := ⟨[], [(["root"], .directory), (["outside"], .file "0".toUTF8)]⟩

/-- A family may be without fault and have a node that is not below the root, and a line of values
is then written outside it. -/
theorem stray_node_lies_outside :
    strayFamily.validate = .ok () ∧
      (∀ control ∈ strayFamily.controls,
        ¬Path.AtOrBelow "root" (Path.resolve "root" control.path)) ∧
      ¬nodesBesideFile.SameOutside (perform (strayFamily.writeLine "3") nodesBesideFile).2 := by
  refine ⟨by decide +kernel, by decide +kernel, fun hsame => ?_⟩
  have hfile := hsame.entries ["outside"] (by decide +kernel)
  exact absurd hfile (by decide +kernel)

end KernelControls
