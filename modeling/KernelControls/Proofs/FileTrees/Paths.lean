import KernelControls.Path

/-!
# Where paths lead

A path is text, and a walk goes along its pieces.  Where it leads, if it leads anywhere, is a
function of the components alone: `follow`.

## Strategy

Cutting a text at its slashes undoes joining texts with slashes, so a path that is built from
components has these components again (`components_ofComponents`), and a path below a directory has
the pieces of the directory in front (`pieces_join`).  Therefore a path behind a root has the
components of the root and then its own (`named_resolve`), whatever they are.
-/

namespace KernelControls.Path

/-! ## Following components -/

/-- Where one component leads from a location. -/
def move (location : List String) : Component → List String
  | .root => []
  | .here => location
  | .up => location.dropLast
  | .name text => location ++ [text]

/-- Where components lead from a location, one after the other. -/
def follow (location : List String) (components : List Component) : List String :=
  components.foldl move location

@[simp] theorem follow_append (location : List String) (before after : List Component) :
    follow location (before ++ after) = follow (follow location before) after :=
  List.foldl_append

theorem follow_names (location names : List String) :
    follow location (names.map .name) = location ++ names := by
  induction names generalizing location with
  | nil => exact (List.append_nil location).symm
  | cons name rest ih => exact (ih (location ++ [name])).trans (List.append_cons _ _ _).symm

/-- The components that the pieces of a path stand for. -/
def named (path : String) : List Component :=
  (pieces path).filterMap Component.ofPiece?

/-- A path leads on from the root if it is absolute, and else from where it is followed. -/
theorem follow_components (location : List String) (path : String) :
    follow location (components path) =
      follow (if isAbsolute path then [] else location) (named path) := by
  unfold components
  split
  · rfl
  · split <;> rfl

/-! ## Pieces -/

theorem notMem_of_mem_splitOn {characters piece : List Char} {mark : Char}
    (hpiece : piece ∈ characters.splitOn mark) : mark ∉ piece := by
  induction characters generalizing piece with
  | nil =>
      rw [List.splitOn_nil, List.mem_singleton] at hpiece
      rw [hpiece]
      exact List.not_mem_nil
  | cons character rest ih =>
      rw [List.splitOn_cons_eq_if_modifyHead] at hpiece
      split at hpiece
      · rcases List.mem_cons.mp hpiece with rfl | hlater
        · exact List.not_mem_nil
        · exact ih hlater
      · next hother =>
          cases hsplit : rest.splitOn mark with
          | nil => exact absurd hsplit (List.splitOn_ne_nil _ _)
          | cons first more =>
              rw [hsplit] at hpiece ih
              rcases List.mem_cons.mp hpiece with rfl | hlater
              · -- The character goes to the front of the first piece, and it is not the mark.
                intro hmem
                rcases List.mem_cons.mp hmem with rfl | hmem
                · exact hother (beq_self_eq_true _)
                · exact ih List.mem_cons_self hmem
              · exact ih (List.mem_cons_of_mem _ hlater)

theorem notMem_of_mem_pieces {path piece : String} (hpiece : piece ∈ pieces path) :
    '/' ∉ piece.toList := by
  obtain ⟨characters, hsplit, rfl⟩ := List.mem_map.mp hpiece
  rw [String.toList_ofList]
  exact notMem_of_mem_splitOn hsplit

/-- A text can be cut at the last place of a mark that occurs in it. -/
theorem exists_last_cut {text : String} {mark : Char} (hmem : mark ∈ text.toList) :
    ∃ before after : String, text.toList = before.toList ++ mark :: after.toList ∧
      mark ∉ after.toList := by
  obtain ⟨after, before, htext, hlast⟩ :=
    List.eq_append_cons_of_mem (List.mem_reverse.mpr hmem)
  refine ⟨String.ofList before.reverse, String.ofList after.reverse, ?_, ?_⟩
  · rw [← List.reverse_inj, htext]
    simp
  · rwa [String.toList_ofList, List.mem_reverse]

/-- Texts without slashes are the pieces of what they are joined to. -/
theorem pieces_intercalate {texts : List String} (hsome : texts ≠ [])
    (htexts : ∀ text ∈ texts, '/' ∉ text.toList) :
    pieces (String.intercalate "/" texts) = texts := by
  unfold pieces
  rw [String.toList_intercalate, show "/".toList = ['/'] from rfl, List.splitOn_intercalate]
  · rw [List.map_map]
    exact (List.map_congr_left fun text _ => String.ofList_toList).trans (List.map_id _)
  · exact List.forall_mem_map.mpr htexts
  · exact fun hnone => hsome (List.map_eq_nil_iff.mp hnone)

theorem pieces_append (before after : String) :
    pieces (before ++ "/" ++ after) = pieces before ++ pieces after := by
  unfold pieces
  rw [String.toList_append, String.toList_append, show "/".toList = ['/'] from rfl,
    List.append_assoc, List.singleton_append, List.splitOn_append_cons_self, List.map_append]

/-- The pieces of a directory that come before those of a path below it. -/
def front (directory : String) : List String :=
  if directory.isEmpty then []
  else if directory.toList.getLast? = some '/' then (pieces directory).dropLast
  else pieces directory

/-- A directory that ends in a slash has an empty last piece. -/
theorem pieces_eq_front {directory : String} (hslash : directory.toList.getLast? = some '/') :
    ∃ before, directory = before ++ "/" ∧ pieces directory = pieces before ++ [""] := by
  obtain ⟨before, hbefore⟩ := List.getLast?_eq_some_iff.mp hslash
  have hdirectory : directory = String.ofList before ++ "/" := by
    apply String.toList_inj.mp
    rw [hbefore, String.toList_append, String.toList_ofList]
    rfl
  refine ⟨String.ofList before, hdirectory, ?_⟩
  have hpieces := pieces_append (String.ofList before) ""
  rw [String.append_empty, ← hdirectory] at hpieces
  exact hpieces

theorem pieces_join (directory relative : String) :
    pieces (join directory relative) = front directory ++ pieces relative := by
  unfold join front
  cases hempty : directory.isEmpty with
  | true =>
      rw [String.isEmpty_iff] at hempty
      subst hempty
      simp
  | false =>
      by_cases hslash : directory.toList.getLast? = some '/'
      · -- The slash at the end is the one that joining would add.
        obtain ⟨before, hdirectory, hpieces⟩ := pieces_eq_front hslash
        simp only [hslash, beq_self_eq_true, Bool.or_true, if_true, Bool.false_eq_true, if_false]
        rw [hpieces, List.dropLast_concat, hdirectory, pieces_append]
      · have hother : (directory.toList.getLast? == some '/') = false := by simpa using hslash
        simp only [hslash, hother, Bool.or_self, Bool.false_eq_true, if_false, pieces_append]

theorem named_eq_front (directory : String) :
    (front directory).filterMap Component.ofPiece? = named directory := by
  unfold named front
  cases hempty : directory.isEmpty with
  | true =>
      rw [String.isEmpty_iff] at hempty
      subst hempty
      rfl
  | false =>
      by_cases hslash : directory.toList.getLast? = some '/'
      · obtain ⟨before, -, hpieces⟩ := pieces_eq_front hslash
        simp only [hslash, Bool.false_eq_true, if_false, if_true]
        rw [hpieces, List.dropLast_concat, List.filterMap_append]
        exact (List.append_nil _).symm
      · simp only [hslash, Bool.false_eq_true, if_false]

theorem isAbsolute_append {path : String} (hsome : path ≠ "") (suffix : String) :
    isAbsolute (path ++ suffix) = isAbsolute path := by
  have hne : path.toList ≠ [] := fun hnone => hsome (String.toList_inj.mp hnone)
  unfold isAbsolute
  rw [String.toList_append, List.head?_append, Option.or_of_isSome (List.isSome_head?.mpr hne)]

theorem isAbsolute_join {directory relative : String} (hrelative : isAbsolute relative = false) :
    isAbsolute (join directory relative) = isAbsolute directory := by
  unfold join
  by_cases hempty : directory = ""
  · subst hempty
    exact hrelative
  · split
    · exact isAbsolute_append hempty relative
    · rw [String.append_assoc]
      exact isAbsolute_append hempty _

/-! ## Paths made of components -/

/-- A component that may stand behind another one. -/
def Component.Plain (component : Component) : Prop :=
  '/' ∉ component.text.toList ∧ ofPiece? component.text = some component

/-- A piece that is neither empty nor made of one or two dots is a name. -/
theorem Component.ofPiece?_eq_name {text : String} (hempty : text ≠ "") (hhere : text ≠ ".")
    (hup : text ≠ "..") : ofPiece? text = some (.name text) := by
  unfold ofPiece?
  split
  · exact absurd rfl hempty
  · exact absurd rfl hhere
  · exact absurd rfl hup
  · rfl

theorem plain_of_mem_named {path : String} {component : Component}
    (hmem : component ∈ named path) : component.Plain := by
  obtain ⟨piece, hpiece, hcomponent⟩ := List.mem_filterMap.mp hmem
  have hslash := notMem_of_mem_pieces hpiece
  have htext : component.text = piece := by
    unfold Component.ofPiece? at hcomponent
    split at hcomponent
    · cases hcomponent
    · cases hcomponent
    · cases hcomponent; rfl
    · cases hcomponent; rfl
  unfold Component.Plain
  rw [htext]
  exact ⟨hslash, hcomponent⟩

/-- The components of a path are plain, but for the first one. -/
theorem components_cases (path : String) :
    components path = .root :: named path ∨ components path = .here :: named path ∨
      components path = named path := by
  unfold components
  split
  · exact .inl rfl
  · split
    · exact .inr (.inl rfl)
    · exact .inr (.inr rfl)

section Plain

variable {rest : List Component} (hplain : ∀ component ∈ rest, component.Plain)
include hplain

theorem filterMap_texts : (rest.map Component.text).filterMap Component.ofPiece? = rest := by
  induction rest with
  | nil => rfl
  | cons component more ih =>
      obtain ⟨⟨-, hcomponent⟩, hmore⟩ := List.forall_mem_cons.mp hplain
      rw [List.map_cons, List.filterMap_cons_some hcomponent, ih hmore]

theorem pieces_texts (hsome : rest ≠ []) :
    pieces (String.intercalate "/" (rest.map Component.text)) = rest.map Component.text := by
  refine pieces_intercalate (fun hnone => hsome (List.map_eq_nil_iff.mp hnone)) ?_
  exact List.forall_mem_map.mpr fun component hmem => (hplain component hmem).1

@[simp] theorem named_texts : named (String.intercalate "/" (rest.map Component.text)) = rest := by
  cases rest with
  | nil => rfl
  | cons first more =>
      unfold named
      rw [pieces_texts hplain (List.cons_ne_nil _ _), filterMap_texts hplain]

theorem components_root : components (ofComponents (.root :: rest)) = .root :: rest := by
  have hpath : ofComponents (.root :: rest) =
      "" ++ "/" ++ String.intercalate "/" (rest.map Component.text) := rfl
  have habsolute : isAbsolute (ofComponents (.root :: rest)) = true := by
    rw [hpath]
    unfold isAbsolute
    rw [String.toList_append]
    rfl
  have hnamed : named (ofComponents (.root :: rest)) = rest := by
    rw [hpath]
    unfold named
    rw [pieces_append, List.filterMap_append]
    exact named_texts hplain
  unfold components
  rw [if_pos habsolute]
  exact congrArg _ hnamed

end Plain

theorem isAbsolute_texts {first : String} (hslash : '/' ∉ first.toList) (hsome : first ≠ "")
    (rest : List String) : isAbsolute (String.intercalate "/" (first :: rest)) = false := by
  have hne : first.toList ≠ [] := fun hnone => hsome (String.toList_inj.mp hnone)
  have hhead : (String.intercalate "/" (first :: rest)).toList.head? = first.toList.head? := by
    cases rest with
    | nil => rw [String.intercalate_singleton]
    | cons second more =>
        rw [String.intercalate_cons_cons, String.append_assoc, String.toList_append,
          List.head?_append, Option.or_of_isSome (List.isSome_head?.mpr hne)]
  -- The first text decides, and it has no slash to start with.
  unfold isAbsolute
  rw [hhead]
  cases hfirst : first.toList with
  | nil => rfl
  | cons character more =>
      rw [hfirst] at hslash
      have hother : character ≠ '/' := fun hsame => hslash (hsame ▸ List.mem_cons_self)
      simpa using hother

theorem Component.Plain.text_ne {component : Component} (plain : component.Plain) :
    component.text ≠ "" ∧ component.text ≠ "." ∧ component ≠ .root := by
  refine ⟨fun hempty => ?_, fun hhere => ?_, ?_⟩
  · have hcomponent := plain.2
    rw [hempty] at hcomponent
    cases hcomponent
  · have hcomponent := plain.2
    rw [hhere] at hcomponent
    cases hcomponent
  · rintro rfl
    exact plain.1 (by decide)

theorem components_here {rest : List Component} (hplain : ∀ component ∈ rest, component.Plain) :
    components (ofComponents (.here :: rest)) = .here :: rest := by
  have hpath : ofComponents (.here :: rest) =
      String.intercalate "/" ("." :: rest.map Component.text) := rfl
  have hpieces : pieces (ofComponents (.here :: rest)) = "." :: rest.map Component.text := by
    rw [hpath, pieces_intercalate (List.cons_ne_nil _ _)]
    refine List.forall_mem_cons.mpr ⟨by decide, ?_⟩
    exact List.forall_mem_map.mpr fun component hmem => (hplain component hmem).1
  have hrelative : isAbsolute (ofComponents (.here :: rest)) = false :=
    isAbsolute_texts (by decide) (by decide) _
  unfold components
  rw [hrelative, hpieces, List.filterMap_cons_none rfl, filterMap_texts hplain]
  rfl

theorem components_plain {rest : List Component} (hplain : ∀ component ∈ rest, component.Plain)
    (hsome : rest ≠ []) : components (ofComponents rest) = rest := by
  cases rest with
  | nil => exact absurd rfl hsome
  | cons first more =>
      obtain ⟨hempty, hhere, hroot⟩ := (hplain first List.mem_cons_self).text_ne
      have hpath : ofComponents (first :: more) =
          String.intercalate "/" ((first :: more).map Component.text) := by
        cases first with
        | root => exact absurd rfl hroot
        | _ => rfl
      have hrelative : isAbsolute (ofComponents (first :: more)) = false := by
        rw [hpath]
        exact isAbsolute_texts (hplain first List.mem_cons_self).1 hempty _
      have hpieces : pieces (ofComponents (first :: more)) =
          first.text :: more.map Component.text := by
        rw [hpath, pieces_texts hplain hsome]
        rfl
      have hnamed : (first.text :: more.map Component.text).filterMap Component.ofPiece? =
          first :: more := filterMap_texts hplain
      unfold components
      rw [hrelative, hpieces, hnamed, List.head?_cons]
      simp [hhere]

/-- A path that is built from the first components of another has these components. -/
theorem components_ofComponents {path : String} {first : List Component}
    (hbegins : first <+: components path) (hsome : first ≠ []) :
    components (ofComponents first) = first := by
  have hnamed : ∀ {more : List Component}, more <+: named path →
      ∀ component ∈ more, component.Plain :=
    fun hmore component hmem => plain_of_mem_named (hmore.subset hmem)
  cases first with
  | nil => exact absurd rfl hsome
  | cons head rest =>
      -- A root or a leading dot is spelled in its own way, and all others are plain.
      rcases components_cases path with hroot | hhere | hplain
      · rw [hroot, List.cons_prefix_cons] at hbegins
        obtain ⟨rfl, hrest⟩ := hbegins
        exact components_root (hnamed hrest)
      · rw [hhere, List.cons_prefix_cons] at hbegins
        obtain ⟨rfl, hrest⟩ := hbegins
        exact components_here (hnamed hrest)
      · rw [hplain] at hbegins
        exact components_plain (hnamed hbegins) hsome

/-! ## Paths behind a root -/

/-- What is put behind a root: the components of a path but for its own root. -/
def relative (path : String) : String :=
  ofComponents ((components path).filter (· ≠ .root))

theorem filter_named (path : String) :
    (named path).filter (fun component => component ≠ .root) = named path := by
  rw [List.filter_eq_self]
  intro component hmem
  exact decide_eq_true (plain_of_mem_named hmem).text_ne.2.2

/-- Behind a root stand the texts of the components, after a dot if the path starts with one. -/
theorem relative_cases (path : String) :
    relative path = String.intercalate "/" ((named path).map Component.text) ∨
      relative path = String.intercalate "/" ("." :: (named path).map Component.text) := by
  have hplain : ofComponents (named path) =
      String.intercalate "/" ((named path).map Component.text) := by
    cases hnamed : named path with
    | nil => rfl
    | cons first rest =>
        have hfirst := (plain_of_mem_named (hnamed ▸ List.mem_cons_self)).text_ne.2.2
        cases first with
        | root => exact absurd rfl hfirst
        | _ => rfl
  have hfilter := filter_named path
  unfold relative
  rcases components_cases path with hroot | hhere | hnone
  · rw [hroot, List.filter_cons_of_neg (by simp), hfilter]
    exact .inl hplain
  · rw [hhere, List.filter_cons_of_pos (by simp), hfilter]
    exact .inr rfl
  · rw [hnone, hfilter]
    exact .inl hplain

theorem isAbsolute_relative (path : String) : isAbsolute (relative path) = false := by
  rcases relative_cases path with hplain | hhere
  · rw [hplain]
    cases hnamed : named path with
    | nil => rfl
    | cons first rest =>
        have hfirst := plain_of_mem_named (hnamed ▸ List.mem_cons_self)
        exact isAbsolute_texts hfirst.1 hfirst.text_ne.1 _
  · rw [hhere]
    exact isAbsolute_texts (by decide) (by decide) _

theorem named_relative (path : String) : named (relative path) = named path := by
  have hplain : ∀ component ∈ named path, component.Plain := fun _ => plain_of_mem_named
  rcases relative_cases path with htexts | hhere
  · rw [htexts]
    exact named_texts hplain
  · have hslashes : ∀ text ∈ "." :: (named path).map Component.text, '/' ∉ text.toList := by
      refine List.forall_mem_cons.mpr ⟨by decide, ?_⟩
      exact List.forall_mem_map.mpr fun component hmem => (hplain component hmem).1
    show (pieces (relative path)).filterMap Component.ofPiece? = _
    rw [hhere, pieces_intercalate (List.cons_ne_nil _ _) hslashes, List.filterMap_cons_none rfl]
    exact filterMap_texts hplain

@[simp] theorem isAbsolute_resolve (root path : String) :
    isAbsolute (resolve root path) = isAbsolute root :=
  isAbsolute_join (isAbsolute_relative path)

@[simp] theorem named_resolve (root path : String) :
    named (resolve root path) = named root ++ named path := by
  have hpieces : pieces (resolve root path) = front root ++ pieces (relative path) :=
    pieces_join root (relative path)
  calc named (resolve root path)
      = (front root ++ pieces (relative path)).filterMap Component.ofPiece? := by
        unfold named
        rw [hpieces]
    _ = named root ++ named (relative path) := by
        rw [List.filterMap_append, named_eq_front]
        rfl
    _ = named root ++ named path := by rw [named_relative]

/-! ## Paths that never step back -/

/-- The names of a path that has no other components. -/
def names (path : String) : List String :=
  (named path).map Component.text

theorem components_of_isAbsolute {path : String} (habsolute : isAbsolute path = true) :
    components path = .root :: named path := by
  unfold components
  rw [if_pos habsolute]
  rfl

/-- Without a step back, everything after the start is a name. -/
theorem exists_name_of_mem_named {path : String} {component : Component}
    (hdown : .up ∉ named path) (hmem : component ∈ named path) :
    ∃ name, component = .name name ∧ name ≠ "" ∧ name ≠ "." ∧ name ≠ ".." := by
  have hup : component ≠ .up := by
    rintro rfl
    exact hdown hmem
  obtain ⟨piece, -, hcomponent⟩ := List.mem_filterMap.mp hmem
  unfold Component.ofPiece? at hcomponent
  split at hcomponent
  · cases hcomponent
  · cases hcomponent
  · exact absurd (Option.some.inj hcomponent).symm hup
  · next hempty hhere hback =>
      exact ⟨piece, (Option.some.inj hcomponent).symm, hempty, hhere, hback⟩

theorem named_eq_names {path : String} (hdown : .up ∉ named path) :
    named path = (names path).map .name := by
  unfold names
  rw [List.map_map]
  refine (List.map_id _).symm.trans (List.map_congr_left fun component hcomponent => ?_)
  obtain ⟨name, rfl, -⟩ := exists_name_of_mem_named hdown hcomponent
  rfl

/-! ## Paths of nodes -/

/-- A path that a node may have: it starts at the root, has a name and never steps back. -/
structure IsNode (path : String) : Prop where
  absolute : isAbsolute path = true
  named : ∃ name, .name name ∈ components path
  down : .up ∉ components path

theorem isNode_iff {path : String} : IsNode path ↔ isAbsolute path = true ∧
    (∃ component ∈ components path, component = .name component.text) ∧ .up ∉ components path := by
  constructor
  · rintro ⟨habsolute, ⟨name, hmem⟩, hdown⟩
    exact ⟨habsolute, ⟨.name name, hmem, rfl⟩, hdown⟩
  · rintro ⟨habsolute, ⟨component, hmem, hname⟩, hdown⟩
    exact ⟨habsolute, ⟨component.text, hname ▸ hmem⟩, hdown⟩

instance (path : String) : Decidable (IsNode path) :=
  decidable_of_iff' _ isNode_iff

namespace IsNode

variable {path : String} (node : IsNode path)
include node

theorem components_eq_root : components path = .root :: Path.named path :=
  components_of_isAbsolute node.absolute

theorem up_notMem_named : .up ∉ Path.named path := fun hmem =>
  node.down (node.components_eq_root ▸ List.mem_cons_of_mem _ hmem)

theorem exists_name {component : Component} (hmem : component ∈ Path.named path) :
    ∃ name, component = .name name ∧ name ≠ "" ∧ name ≠ "." ∧ name ≠ ".." :=
  exists_name_of_mem_named node.up_notMem_named hmem

theorem mem_names {name : String} (hmem : name ∈ names path) :
    name ≠ "" ∧ name ≠ "." ∧ name ≠ ".." := by
  obtain ⟨component, hcomponent, rfl⟩ := List.mem_map.mp hmem
  obtain ⟨name, rfl, hname⟩ := node.exists_name hcomponent
  exact hname

theorem named_eq_names : Path.named path = (names path).map .name :=
  Path.named_eq_names node.up_notMem_named

theorem names_ne_nil : names path ≠ [] := by
  intro hnone
  obtain ⟨name, hmem⟩ := node.named
  rw [node.components_eq_root, node.named_eq_names, hnone] at hmem
  exact nomatch List.mem_singleton.mp hmem

/-- Node paths are spellings of one another if they have the same names. -/
theorem same_iff {other : String} (hother : IsNode other) :
    Same other path ↔ names other = names path := by
  unfold Same
  rw [node.components_eq_root, hother.components_eq_root]
  constructor
  · intro hsame
    exact congrArg (List.map Component.text) (List.cons.inj hsame).2
  · intro hnames
    rw [node.named_eq_names, hother.named_eq_names, hnames]

theorem resolve_eq (root : String) :
    resolve root path = join root (String.intercalate "/" (names path)) := by
  have hfilter : (components path).filter (· ≠ .root) = Path.named path := by
    rw [node.components_eq_root, List.filter_cons_of_neg (by simp)]
    exact filter_named path
  unfold resolve
  rw [hfilter]
  congr 1
  unfold names
  cases hnamed : Path.named path with
  | nil => exact absurd (congrArg (List.map Component.text) hnamed) node.names_ne_nil
  | cons first rest =>
      obtain ⟨name, rfl, -⟩ := node.exists_name (hnamed ▸ List.mem_cons_self)
      rfl

/-- Below a root, the names of a node follow the pieces of the root. -/
theorem pieces_resolve (root : String) :
    pieces (resolve root path) = front root ++ names path := by
  rw [node.resolve_eq, pieces_join, pieces_intercalate node.names_ne_nil]
  exact List.forall_mem_map.mpr fun component hmem => (plain_of_mem_named hmem).1

end IsNode

end KernelControls.Path
