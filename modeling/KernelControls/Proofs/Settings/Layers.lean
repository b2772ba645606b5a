import KernelControls.Proofs.FileTrees.Directories
import KernelControls.Proofs.Families.Listings
import KernelControls.Proofs.Settings.Keys

/-!
# Settings are layered one by one

Each setting is looked up by itself: in the environment, else in the settings file, else it is the
default.  Whatever the layers give, the settings are refused just if they leave the place of the
preferences or of the nodes empty.

## Strategy

A file counts by its extension, so something has to stand before it in the name; what is then
appended to the path is appended to the last name (`Path.exists_components_append`).  The layer of
the file gives what its document gives, or nothing if no file is there (`fileLayer_of_gives`).  A
document is set aside here if one of its keys leads into a setting, or if it cannot be used at all
because of a stamp that holds no moment.
-/

namespace KernelControls

/-! ## Appending to paths -/

namespace Path

theorem pieces_eq_singleton {text : String} (hslash : '/' ∉ text.toList) :
    pieces text = [text] := by
  unfold pieces
  rw [List.splitOn_eq_singleton hslash, List.map_singleton, String.ofList_toList]

variable {front : String} (hsome : front ≠ "") (hslash : front.toList.getLast? ≠ some '/')
include hsome hslash

/-- What is appended to a path that does not end in a slash is appended to its last piece. -/
theorem exists_pieces_append : ∃ before stem, stem ≠ "" ∧ ∀ suffix : String,
    '/' ∉ suffix.toList → pieces (front ++ suffix) = before ++ [stem ++ suffix] := by
  have hwhole : ∀ {stem suffix : String}, '/' ∉ stem.toList → '/' ∉ suffix.toList →
      pieces (stem ++ suffix) = [stem ++ suffix] := fun hstem hsuffix =>
    pieces_eq_singleton (by
      rw [String.toList_append, List.mem_append]
      exact not_or.mpr ⟨hstem, hsuffix⟩)
  by_cases hmem : '/' ∈ front.toList
  · obtain ⟨before, stem, hfront, hlast⟩ := exists_last_cut hmem
    have hcut : front = before ++ "/" ++ stem := by
      rw [← String.toList_inj, hfront]
      simp
    refine ⟨pieces before, stem, ?_, fun suffix hsuffix => ?_⟩
    · rintro rfl
      rw [hfront] at hslash
      exact hslash List.getLast?_concat
    · rw [hcut, String.append_assoc, pieces_append, hwhole hlast hsuffix]
  · exact ⟨[], front, hsome, fun suffix hsuffix => hwhole hmem hsuffix⟩

/-- What is appended to a path that does not end in a slash is appended to its last name, if that is
long enough. -/
theorem exists_components_append : ∃ before stem, stem ≠ "" ∧ ∀ suffix : String,
    '/' ∉ suffix.toList → 2 < (stem ++ suffix).length →
      components (front ++ suffix) = before ++ [.name (stem ++ suffix)] := by
  obtain ⟨before, stem, hstem, hpieces⟩ := exists_pieces_append hsome hslash
  let named := before.filterMap Component.ofPiece?
  refine ⟨if isAbsolute front then .root :: named
    else if before.head? == some "." then .here :: named else named, stem, hstem, ?_⟩
  intro suffix hsuffix hlong
  have hother : ∀ text : String, text.length ≤ 2 → stem ++ suffix ≠ text := by
    rintro text hshort rfl
    exact absurd hlong (Nat.not_lt.mpr hshort)
  have hname := Component.ofPiece?_eq_name (hother "" (by decide)) (hother "." (by decide))
    (hother ".." (by decide))
  have hhead : ((before ++ [stem ++ suffix]).head? == some ".") = (before.head? == some ".") := by
    cases before with
    | cons first rest => rfl
    | nil => simpa using hother "." (by decide)
  unfold components
  rw [isAbsolute_append hsome, hpieces suffix hsuffix, hhead, List.filterMap_append,
    List.filterMap_cons_some hname, List.filterMap_nil]
  split
  · rfl
  · split <;> rfl

end Path

/-! ## Settings files -/

/-- The path of a settings document: its last name has something before the extension. -/
def IsSettingsPath (path : String) : Prop :=
  ∃ front, front ≠ "" ∧ front.toList.getLast? ≠ some '/' ∧ path = front ++ ".toml"

namespace IsSettingsPath

variable {path : String} (hpath : IsSettingsPath path)
include hpath

theorem ofPath?_eq : SettingsFormat.ofPath? path = some .toml := by
  obtain ⟨front, hsome, hslash, rfl⟩ := hpath
  obtain ⟨before, stem, hstem, hcomponents⟩ := Path.exists_components_append hsome hslash
  have hlong : 2 < (stem ++ ".toml").length := by
    rw [String.length_append]
    exact Nat.lt_add_left _ (by decide)
  have hname : Path.fileName? (front ++ ".toml") = some (stem ++ ".toml") := by
    unfold Path.fileName?
    rw [hcomponents ".toml" (by decide) hlong, List.getLast?_concat]
  have hextension : Path.extension? (stem ++ ".toml") = some "toml" :=
    (Path.extension?_eq_some_iff (by decide)).mpr ⟨stem, hstem, by
      rw [String.append_assoc]
      rfl⟩
  unfold SettingsFormat.ofPath?
  rw [hname]
  show (Path.extension? (stem ++ ".toml")).bind _ = _
  rw [hextension]
  rfl

/-- The path with a further extension is a spelling of the path with its text appended. -/
theorem extend?_eq (format : SettingsFormat) : ∃ extended,
    format.extend? path = some extended ∧
      Path.Same extended (path ++ "." ++ format.extension) := by
  obtain ⟨front, hsome, hslash, rfl⟩ := hpath
  obtain ⟨before, stem, hstem, hcomponents⟩ := Path.exists_components_append hsome hslash
  have hlong : ∀ more, 2 < (stem ++ (".toml" ++ more)).length := fun more => by
    rw [String.length_append, String.length_append]
    exact Nat.lt_add_left _ (Nat.lt_add_right _ (by decide))
  have hpath : Path.components (front ++ ".toml") = before ++ [.name (stem ++ ".toml")] := by
    have hplain := hcomponents (".toml" ++ "") (by decide) (hlong "")
    rwa [String.append_empty] at hplain
  have hextended : Path.components (front ++ ".toml" ++ "." ++ format.extension) =
      before ++ [.name (stem ++ ".toml" ++ "." ++ format.extension)] := by
    have hmore : '/' ∉ (".toml" ++ ("." ++ format.extension)).toList := by
      cases format <;> decide
    simpa only [String.append_assoc] using hcomponents _ hmore (hlong _)
  refine ⟨Path.ofComponents (before ++ [.name (stem ++ ".toml" ++ "." ++ format.extension)]), ?_,
    ?_⟩
  · unfold SettingsFormat.extend? Path.fileName?
    rw [hpath, List.getLast?_concat, List.dropLast_concat]
    rfl
  · unfold Path.Same
    rw [← hextended]
    exact Path.components_ofComponents (List.prefix_refl _) (by rw [hextended]; simp)

end IsSettingsPath

/-- The file of a path gives settings the given texts: it is a document that can be used and gives
them, or no file is there, with a further extension neither, and they are none. -/
inductive FileTree.GivesSettings (tree : FileTree) (path : String)
    (given : Setting → Option String) : Prop
  | document {text : String} {fields : Toml.Fields} (hread : tree.read path = .ok text.toUTF8)
      (hdocument : Toml.read? text = some fields)
      (hstamps : (Toml.resolveDocument? fields).isSome = true) (hgives : FieldsGive fields given)
  | absent (hfile : tree.isFile path = false)
      (hextended : ∀ (format : SettingsFormat) other,
        Path.Same other (path ++ "." ++ format.extension) → tree.isFile other = false)
      (hnone : ∀ setting, given setting = none)

namespace FileTree

variable {tree : FileTree} {path : String} {given : Setting → Option String}

theorem isFile_of_read {content : ByteArray} (hread : tree.read path = .ok content) :
    tree.isFile path = true := by
  obtain ⟨location, hfind⟩ := read_eq_ok.mp hread
  unfold isFile
  rw [hfind]

theorem findFile_of_isFile (hpath : IsSettingsPath path) (hfile : tree.isFile path = true) :
    perform (Settings.findFile path) tree = (some (.toml, path), tree) := by
  have hrun : perform (Settings.findFile path) tree =
      ((SettingsFormat.ofPath? path).map fun format => (format, path), tree) := by
    unfold Settings.findFile
    rw [perform_bind]
    show perform (if tree.isFile path then _ else _) tree = _
    rw [if_pos hfile]
    rfl
  rw [hrun, hpath.ofPath?_eq]
  rfl

theorem firstFile_eq_none {files : List (SettingsFormat × Option String)}
    (hfiles : ∀ file ∈ files, ∀ path, file.2 = some path → tree.isFile path = false) :
    perform (Settings.firstFile files) tree = (none, tree) := by
  induction files with
  | nil => rfl
  | cons file rest ih =>
      obtain ⟨hfirst, hrest⟩ := List.forall_mem_cons.mp hfiles
      obtain ⟨format, _ | path⟩ := file
      · exact ih hrest
      · unfold Settings.firstFile
        rw [perform_bind]
        show perform (if tree.isFile path then _ else _) tree = _
        rw [hfirst path rfl, if_neg Bool.false_ne_true]
        exact ih hrest

theorem findFile_of_absent (hpath : IsSettingsPath path) (hfile : tree.isFile path = false)
    (hextended : ∀ (format : SettingsFormat) other,
      Path.Same other (path ++ "." ++ format.extension) → tree.isFile other = false) :
    perform (Settings.findFile path) tree = (none, tree) := by
  unfold Settings.findFile
  rw [perform_bind]
  show perform (if tree.isFile path then _ else _) tree = _
  rw [hfile, if_neg Bool.false_ne_true]
  refine firstFile_eq_none fun file hmem other hother => ?_
  obtain ⟨format, -, rfl⟩ := List.mem_map.mp hmem
  obtain ⟨extended, hextend, hsame⟩ := hpath.extend?_eq format
  obtain rfl : extended = other := Option.some.inj (hextend.symm.trans hother)
  exact hextended format extended hsame

theorem fileLayer_of_gives (hpath : IsSettingsPath path) (hgives : tree.GivesSettings path given) :
    ∃ layer, perform (Settings.fileLayer path) tree = (some layer, tree) ∧
      ∀ setting : Setting, layer.value? setting.name = (given setting).map .text := by
  cases hgives with
  | @document text fields hread hdocument hstamps hgives =>
      obtain ⟨resolved, hresolve⟩ := Option.isSome_iff_exists.mp hstamps
      refine ⟨Layer.ofTomlFields resolved, ?_, (hgives.of_resolve hresolve).value?_eq⟩
      unfold Settings.fileLayer
      have htext : perform (FileSystem.readText path) tree = (.ok text, tree) := by
        rw [LawfulFiles.readText_run]
        show ((tree.read path).bind _, tree) = _
        rw [hread]
        simp only [Except.bind, fromUTF8?_toUTF8]
      have hlayer : SettingsFormat.toml.layer? text = some (Layer.ofTomlFields resolved) := by
        unfold SettingsFormat.layer?
        dsimp only
        rw [hdocument, Option.bind_some, hresolve]
        rfl
      rw [perform_bind, findFile_of_isFile hpath (isFile_of_read hread)]
      show perform (FileSystem.readText path >>= _) tree = _
      rw [perform_bind, htext]
      exact congrArg (·, tree) hlayer
  | absent hfile hextended hnone =>
      refine ⟨⟨[]⟩, ?_, fun setting => by rw [hnone]; rfl⟩
      unfold Settings.fileLayer
      rw [perform_bind, findFile_of_absent hpath hfile hextended]
      rfl

end FileTree

/-! ## All layers -/

theorem Settings.ofLayers?_eq_some {lower upper : Layer} {values : Setting → String}
    (hvalues : ∀ setting, layered lower upper setting = .text (values setting)) :
    ofLayers? lower upper = some (ofValues values) := by
  unfold ofLayers?
  simp only [hvalues]
  rfl

theorem Settings.layered_eq {lower upper : Layer} {inFile inEnvironment : Setting → Option String}
    (hlower : ∀ setting : Setting, lower.value? setting.name = (inFile setting).map .text)
    (hupper : ∀ setting : Setting, upper.value? setting.name = (inEnvironment setting).map .text)
    (setting : Setting) : layered lower upper setting =
      .text (((inEnvironment setting).or (inFile setting)).getD setting.default) := by
  unfold layered
  rw [hlower, hupper]
  cases inEnvironment setting with
  | some text => rfl
  | none => cases inFile setting <;> rfl

/-- **Settings are layered one by one.**  Take any path of a settings document, whose file gives the
settings any texts, some or none, or is not there, and any environment that gives them any texts,
some or none.  Then each setting is loaded by itself: as the environment's text, which may be empty,
else as the file's text, else as the default.  The settings are loaded just if the places of
preferences and of nodes are not empty, and otherwise the first of these that is empty is refused.
Loading from the file by name is the same where the path leads to anything, and else the file is not
found.  The files stay as they are. -/
theorem settings_layered_one_by_one {tree : FileTree} {path : String}
    {environment : List (String × String)} {inFile inEnvironment : Setting → Option String}
    (hpath : IsSettingsPath path) (hfile : tree.GivesSettings path inFile)
    (henvironment : EnvironmentGives environment inEnvironment) :
    let settings := Settings.ofValues fun setting =>
      ((inEnvironment setting).or (inFile setting)).getD setting.default
    let loaded := perform (Settings.loadLayered environment path) tree
    (settings.storePath ≠ "" → settings.nodeRoot ≠ "" → loaded = (.ok settings, tree)) ∧
    (settings.storePath = "" → loaded = (.error (.empty .storePath), tree)) ∧
    (settings.storePath ≠ "" → settings.nodeRoot = "" →
      loaded = (.error (.empty .nodeRoot), tree)) ∧
    perform (Settings.load environment (some path)) tree =
      if tree.isPresent path then loaded else (.error (.notFound path), tree) := by
  intro settings loaded
  obtain ⟨lower, hlower, hgiven⟩ := FileTree.fileLayer_of_gives hpath hfile
  have hlayers : Settings.ofLayers? lower (.ofEnvironment environment) = some settings :=
    Settings.ofLayers?_eq_some (Settings.layered_eq hgiven henvironment.value?_eq)
  have hloaded : loaded = (settings.check, tree) := by
    show perform (Settings.fileLayer path >>= _) tree = _
    rw [perform_bind, hlower]
    dsimp only
    rw [hlayers]
    rfl
  rw [hloaded]
  unfold Settings.check
  refine ⟨fun hstore hroot => ?_, fun hstore => ?_, fun hstore hroot => ?_, ?_⟩
  · rw [if_neg (by simpa using hstore), if_neg (by simpa using hroot)]
  · rw [if_pos (by simpa using hstore)]
  · rw [if_neg (by simpa using hstore), if_pos (by simpa using hroot)]
  · show perform (if tree.isPresent path then _ else _) tree = _
    split
    · exact hloaded
    · rfl

/-- A tree with one file. -/
def FileTree.ofFile (name text : String) : FileTree :=
  ⟨[], [([name], .file text.toUTF8)]⟩

/-- A settings document that gives two settings, with a remark. -/
def remarkedSettings : String :=
  "Node_Root = \"/r\"\nremark = 1\nlog_filter = \"debug\"\n"

/-- An environment that overrides one setting with nothing and gives another. -/
def overriding : List (String × String) :=
  [("HWTUNE_LOG_FILTER", ""), ("PATH", "/bin"), ("hwtune_store_path", "/p.toml"),
    ("HWTUNE_REMARK_2", "x")]

theorem remarkedSettings_layered :
    let tree := FileTree.ofFile "c.toml" remarkedSettings
    perform (Settings.loadLayered overriding "c.toml") tree =
      (.ok { Settings.default with nodeRoot := "/r", storePath := "/p.toml", logFilter := "" },
        tree) := by
  intro tree
  have hpath : IsSettingsPath "c.toml" := ⟨"c", by decide, by decide, rfl⟩
  have hfields : FieldsGive [("Node_Root", .text "/r"), ("remark", .integer 1),
      ("log_filter", .text "debug")]
      (List.lookup · [(.nodeRoot, "/r"), (.logFilter, "debug")]) := by
    refine ⟨fun setting => by cases setting <;> rfl, fun field hfield setting hleads => ?_⟩
    have hplain : ∀ key ∈ ["Node_Root", "remark", "log_filter"],
        '.' ∉ key.toList.map Char.toLower ∧ '[' ∉ key.toList.map Char.toLower := by decide
    obtain ⟨hdot, hbracket⟩ := hplain field.1 (List.mem_map_of_mem hfield)
    obtain ⟨mark, hmark, hmem⟩ := hleads.exists_mark
    rcases List.mem_pair.mp hmark with rfl | rfl
    · exact hdot hmem
    · exact hbracket hmem
  have hread : tree.read "c.toml" = .ok remarkedSettings.toUTF8 := rfl
  have hdocument : Toml.read? remarkedSettings = some [("Node_Root", .text "/r"),
      ("remark", .integer 1), ("log_filter", .text "debug")] := rfl
  have hfile : tree.GivesSettings "c.toml" _ := .document hread hdocument rfl hfields
  have henvironment : EnvironmentGives overriding
      (List.lookup · [(.storePath, "/p.toml"), (.logFilter, "")]) :=
    ⟨fun setting => by cases setting <;> rfl, by decide⟩
  exact (settings_layered_one_by_one hpath hfile henvironment).1 (by decide) (by decide)

/-- Whether a file is layered over the defaults by what it gives settings under their names,
whatever other keys it has. -/
def FileTree.LayersRegardless (name text : String) : Prop :=
  ∀ (fields : Toml.Fields) (given : Setting → Option String), Toml.read? text = some fields →
    (∀ setting : Setting, (fields.filter fun field =>
      Layer.Spells field.1 setting.name).map Prod.snd = (given setting).toList.map Toml.text) →
    (perform (Settings.loadLayered [] name) (ofFile name text)).1 =
      (Settings.ofValues fun setting => (given setting).getD setting.default).check

theorem FileTree.not_layersRegardless {name text : String} {fields : Toml.Fields}
    (given : Setting → Option String) (hdocument : Toml.read? text = some fields)
    (htexts : ∀ setting : Setting, (fields.filter fun field =>
      Layer.Spells field.1 setting.name).map Prod.snd = (given setting).toList.map Toml.text)
    (hloaded : (perform (Settings.loadLayered [] name) (ofFile name text)).1.toOption ≠
      (Settings.ofValues fun setting => (given setting).getD setting.default).check.toOption) :
    ¬LayersRegardless name text := fun hlayers =>
  hloaded (congrArg Except.toOption (hlayers fields given hdocument htexts))

/-- Not every document is layered.  A file that is called `.toml` has no extension and is passed
over.  A key that leads into a setting spoils it.  A stamp without a moment spoils the whole
document, wherever it stands. -/
theorem not_every_document_layered :
    ¬FileTree.LayersRegardless ".toml" "node_root = \"/r\"\n" ∧
    ¬FileTree.LayersRegardless "c.toml" "\"log_filter[\\t0]\" = \"/x\"\n" ∧
    ¬FileTree.LayersRegardless "c.toml"
      "other = \x7b \"$__toml_private_datetime\" = \"x\" \x7d\nlog_filter = \"warn\"\n" := by
  refine ⟨FileTree.not_layersRegardless (List.lookup · [(.nodeRoot, "/r")]) rfl ?_ ?_,
    FileTree.not_layersRegardless (fun _ => none) rfl ?_ ?_,
    FileTree.not_layersRegardless (List.lookup · [(.logFilter, "warn")]) rfl ?_ ?_⟩
  · exact fun setting => by cases setting <;> rfl
  · decide +kernel
  · exact fun setting => by cases setting <;> rfl
  · decide +kernel
  · exact fun setting => by cases setting <;> rfl
  · decide +kernel

end KernelControls
