import KernelControls.Proofs.Documents.ByteOrder
import KernelControls.Proofs.Families.Loading
import KernelControls.Proofs.FileTrees.Paths
import Mathlib.Data.List.Forall2
import Mathlib.Data.List.Sort

/-!
# Directory listings in any order

A directory lists its names in any order.  The definition files among them are taken in the order of
their names, so a catalog that is loaded does not depend on the listing, nor on anything else that
lies in the directory.  Where several files define families of one id the last name wins, and where
several files are no definitions the first name decides what is reported.

## Strategy

A `ListedTree` is a file tree with an order of its own for every listing.  Loading looks at it in
three ways, and only the listing tells it from the tree below (`ListedTree.load_run`); the
definition files of two listings are the same ascending list (`definitionNames_congr`).  In one tree
a load is followed file by file.  Each file is a definition or unusable, and never both, so the
first unusable file ends the load, and without one all families are inserted.
-/

namespace KernelControls

/-! ## Names of definition files -/

/-- What follows the last dot of a name is its extension, unless the name begins with that dot. -/
theorem Path.extension?_lastDot (stem : List Char) {after : List Char} (hdot : '.' ∉ after) :
    Path.extension? (String.ofList (stem ++ '.' :: after)) =
      if stem = [] then none else some (String.ofList after) := by
  obtain ⟨last, earlier, hpieces⟩ : ∃ last earlier,
      (stem.splitOn '.').reverse = last :: earlier :=
    List.exists_cons_of_ne_nil fun hnil =>
      List.splitOn_ne_nil '.' stem (List.reverse_eq_nil_iff.mp hnil)
  have hempty : (last.isEmpty && earlier.isEmpty) = true ↔ stem = [] := by
    rw [Bool.and_eq_true, List.isEmpty_iff, List.isEmpty_iff]
    constructor
    · rintro ⟨rfl, rfl⟩
      have hsplit : stem.splitOn '.' = [[]] := List.reverse_eq_iff.mp hpieces
      have hjoined : ['.'].intercalate (stem.splitOn '.') = stem := List.intercalate_splitOn '.'
      rw [← hjoined, hsplit]
      rfl
    · rintro rfl
      rw [List.splitOn_nil, List.reverse_singleton] at hpieces
      exact ⟨(List.cons.inj hpieces).1.symm, (List.cons.inj hpieces).2.symm⟩
  unfold Path.extension?
  rw [String.toList_ofList, List.splitOn_append_cons_self, List.splitOn_eq_singleton hdot,
    List.reverse_append, List.reverse_singleton, List.singleton_append, hpieces]
  simp only [hempty]

/-- A name has an extension if something stands before its last dot. -/
theorem Path.extension?_eq_some_iff {name extension : String} (hdot : '.' ∉ extension.toList) :
    Path.extension? name = some extension ↔
      ∃ stem, stem ≠ "" ∧ name = stem ++ "." ++ extension := by
  constructor
  · intro hextension
    have hmem : '.' ∈ name.toList := by
      by_contra hnone
      unfold Path.extension? at hextension
      rw [List.splitOn_eq_singleton hnone] at hextension
      cases hextension
    obtain ⟨stem, after, hname, hlast⟩ := Path.exists_last_cut hmem
    have hcut : name = String.ofList (stem.toList ++ '.' :: after.toList) := by
      rw [← hname, String.ofList_toList]
    rw [hcut, Path.extension?_lastDot _ hlast] at hextension
    split at hextension
    · cases hextension
    next hstem =>
      obtain rfl : after = extension :=
        String.ofList_toList.symm.trans (Option.some.inj hextension)
      refine ⟨stem, fun hempty => hstem (by rw [hempty]; rfl), ?_⟩
      rw [hcut, ← String.toList_inj]
      simp
  · rintro ⟨stem, hstem, rfl⟩
    have hname : stem ++ "." ++ extension =
        String.ofList (stem.toList ++ '.' :: extension.toList) := by
      rw [← String.toList_inj]
      simp
    rw [hname, Path.extension?_lastDot _ hdot, if_neg (by simpa using hstem),
      String.ofList_toList]

namespace Catalog

/-- The name of a definition file: something, and then `.toml`. -/
def IsDefinitionName (name : String) : Prop :=
  ∃ stem, stem ≠ "" ∧ name = stem ++ ".toml"

theorem extension?_eq_definitionExtension_iff (name : String) :
    Path.extension? name = some definitionExtension ↔ IsDefinitionName name := by
  have hsuffix : ∀ stem : String, stem ++ "." ++ definitionExtension = stem ++ ".toml" :=
    fun stem => String.append_assoc
  rw [Path.extension?_eq_some_iff (by decide)]
  simp only [hsuffix]
  rfl

instance (name : String) : Decidable (IsDefinitionName name) :=
  decidable_of_iff _ (extension?_eq_definitionExtension_iff name)

theorem definitionNames_perm (names : List String) :
    (definitionNames names).Perm (names.filter fun name => IsDefinitionName name) := by
  have hfilter : (names.filter fun name => Path.extension? name == some definitionExtension) =
      names.filter fun name => IsDefinitionName name := by
    refine List.filter_congr fun name _ => ?_
    rw [beq_eq_decide, decide_eq_decide]
    exact extension?_eq_definitionExtension_iff name
  unfold definitionNames
  rw [hfilter]
  exact List.mergeSort_perm _ _

theorem pairwise_definitionNames (names : List String) :
    (definitionNames names).Pairwise (· ≤ ·) :=
  List.sortedLE_mergeSort.pairwise

/-- The definition files are known by which names there are. -/
theorem definitionNames_congr {names others : List String}
    (hperm : (others.filter fun name => IsDefinitionName name).Perm
      (names.filter fun name => IsDefinitionName name)) :
    definitionNames others = definitionNames names := by
  have hsame : (definitionNames others).Perm (definitionNames names) :=
    (definitionNames_perm others).trans (hperm.trans (definitionNames_perm names).symm)
  exact hsame.eq_of_pairwise (fun _ _ _ _ => String.le_antisymm) (pairwise_definitionNames others)
    (pairwise_definitionNames names)

end Catalog

/-! ## Trees with listings in any order -/

/-- An order in which directories list their names. -/
structure ListingOrder where
  arrange : String → List String → List String
  perm : ∀ directory names, (arrange directory names).Perm names

/-- A file tree whose directories list their names in an order of their own. -/
structure ListedTree where
  tree : FileTree
  order : ListingOrder

namespace ListedTree

/-- Do something in the tree. -/
def within {Value : Type} (action : StateM FileTree Value) : StateM ListedTree Value :=
  fun listed =>
    let done := perform action listed.tree
    (done.1, { listed with tree := done.2 })

instance : FileSystem (StateM ListedTree) where
  isPresent path := within (FileSystem.isPresent path)
  isFile path := within (FileSystem.isFile path)
  read path := within (FileSystem.read path)
  list path := fun listed => ((listed.tree.list path).map (listed.order.arrange path), listed)
  write path text := within (FileSystem.write path text)
  makeDirectories path := within (FileSystem.makeDirectories path)
  replace directory path text := within (FileSystem.replace directory path text)

end ListedTree

/-! ## The same in two worlds -/

section Agreeing

variable {World Other Value Later : Type}

/-- Two programs that leave their worlds as they are and have the same result. -/
def AgreeAt (world : World) (other : Other) (first : StateM World Value)
    (second : StateM Other Value) : Prop :=
  ∃ value, perform first world = (value, world) ∧ perform second other = (value, other)

namespace AgreeAt

variable {world : World} {other : Other}

theorem pure (value : Value) :
    AgreeAt world other (Pure.pure value : StateM World Value) (Pure.pure value) :=
  ⟨value, rfl, rfl⟩

theorem bind {first : StateM World Value} {second : StateM Other Value}
    {more : Value → StateM World Later} {others : Value → StateM Other Later}
    (hfirst : AgreeAt world other first second)
    (hmore : ∀ value, AgreeAt world other (more value) (others value)) :
    AgreeAt world other (first >>= more) (second >>= others) := by
  obtain ⟨value, hworld, hother⟩ := hfirst
  obtain ⟨later, hlater, hlaterOther⟩ := hmore value
  refine ⟨later, ?_, ?_⟩
  · rw [perform_bind, hworld]
    exact hlater
  · rw [perform_bind, hother]
    exact hlaterOther

theorem result {first : StateM World Value} {second : StateM Other Value}
    (hagree : AgreeAt world other first second) :
    (perform first world).1 = (perform second other).1 := by
  obtain ⟨value, hworld, hother⟩ := hagree
  rw [hworld, hother]

variable [FileSystem (StateM World)] [FileSystem (StateM Other)]

theorem readText {path : String}
    (hread : AgreeAt world other (FileSystem.read path) (FileSystem.read path)) :
    AgreeAt world other (FileSystem.readText path) (FileSystem.readText path) := by
  refine hread.bind fun result => ?_
  cases result with
  | error cause => exact .pure _
  | ok content =>
      dsimp only
      cases String.fromUTF8? content <;> exact .pure _

theorem readDefinition {path : String}
    (htext : AgreeAt world other (FileSystem.readText path) (FileSystem.readText path)) :
    AgreeAt world other (Catalog.readDefinition path) (Catalog.readDefinition path) := by
  refine htext.bind fun result => ?_
  cases result with
  | error cause => exact .pure _
  | ok text =>
      dsimp only
      cases Family.ofDocument? text <;> exact .pure _

theorem insertDefinitions (catalog : Catalog) {paths : List String}
    (htexts : ∀ path ∈ paths,
      AgreeAt world other (FileSystem.readText path) (FileSystem.readText path)) :
    AgreeAt world other (catalog.insertDefinitions paths) (catalog.insertDefinitions paths) := by
  induction paths generalizing catalog with
  | nil => exact .pure _
  | cons path rest ih =>
      obtain ⟨hfirst, hrest⟩ := List.forall_mem_cons.mp htexts
      refine hfirst.readDefinition.bind fun result => ?_
      cases result with
      | error error => exact .pure _
      | ok family =>
          dsimp only
          cases catalog.insert family with
          | error invalid => exact .pure _
          | ok extended => exact (ih extended hrest).bind fun _ => .pure _

end AgreeAt

end Agreeing

/-! ## Loading follows the names -/

section Load

variable {tree other : FileTree} {directory : String}

theorem ListedTree.readText_agree (listed : ListedTree) (path : String) :
    AgreeAt listed listed.tree (FileSystem.readText path) (FileSystem.readText path) :=
  .readText ⟨_, rfl, rfl⟩

/-- What a catalog is loaded from: whether there is a directory, which definition files it lists,
and what is in them. -/
theorem ListedTree.load_run (listed : ListedTree) (directory : String) :
    (perform (Catalog.load directory) listed).1 =
      if listed.tree.isPresent directory then
        match listed.tree.list directory with
        | .error cause => ([], .error (.io cause))
        | .ok names => (perform (Catalog.builtin.insertDefinitions
            ((Catalog.definitionNames names).map (Path.join directory))) listed.tree).1
      else ([], .ok .builtin) := by
  have hpresent : perform (FileSystem.isPresent directory) listed =
      (listed.tree.isPresent directory, listed) := rfl
  have hlist : perform (FileSystem.list directory) listed =
      ((listed.tree.list directory).map (listed.order.arrange directory), listed) := rfl
  unfold Catalog.load
  rw [perform_bind, hpresent]
  cases listed.tree.isPresent directory with
  | false => rfl
  | true =>
      simp only [if_true]
      rw [perform_bind, hlist]
      cases listed.tree.list directory with
      | error cause => rfl
      | ok names =>
          have hnames : Catalog.definitionNames (listed.order.arrange directory names) =
              Catalog.definitionNames names :=
            Catalog.definitionNames_congr ((listed.order.perm directory names).filter _)
          simp only [Except.map, hnames]
          exact (AgreeAt.insertDefinitions _ fun path _ => listed.readText_agree path).result

/-- Two listings with the same names of definition files, or the same refusal. -/
inductive SameListing : Except OsError (List String) → Except OsError (List String) → Prop where
  | refused (cause : OsError) : SameListing (.error cause) (.error cause)
  | listed {names others : List String}
      (hperm : (others.filter fun name => Catalog.IsDefinitionName name).Perm
        (names.filter fun name => Catalog.IsDefinitionName name)) :
      SameListing (.ok names) (.ok others)

/-- Two trees with the same definition files in a directory, whatever else they hold. -/
structure SameDefinitions (directory : String) (tree other : FileTree) : Prop where
  isPresent : other.isPresent directory = tree.isPresent directory
  list : SameListing (tree.list directory) (other.list directory)
  readText : ∀ names, tree.list directory = .ok names → ∀ name ∈ names,
    Catalog.IsDefinitionName name →
    (perform (FileSystem.readText (Path.join directory name)) other).1 =
      (perform (FileSystem.readText (Path.join directory name)) tree).1

/-- The same definition files are loaded alike, in whatever orders they are listed. -/
theorem SameDefinitions.load (same : SameDefinitions directory tree other)
    (order another : ListingOrder) :
    (perform (Catalog.load directory) (⟨other, another⟩ : ListedTree)).1 =
      (perform (Catalog.load directory) (⟨tree, order⟩ : ListedTree)).1 := by
  have hlist := same.list
  have hread := same.readText
  rw [ListedTree.load_run, ListedTree.load_run, same.isPresent]
  dsimp only
  generalize tree.list directory = listing at hlist hread ⊢
  generalize other.list directory = otherListing at hlist ⊢
  cases hlist with
  | refused cause => rfl
  | @listed names others hperm =>
      dsimp only
      rw [Catalog.definitionNames_congr hperm]
      refine if_congr Iff.rfl (AgreeAt.insertDefinitions _ ?_).result rfl
      intro path hpath
      obtain ⟨name, hname, rfl⟩ := List.mem_map.mp hpath
      obtain ⟨hmem, hdefinition⟩ :=
        List.mem_filter.mp ((Catalog.definitionNames_perm names).mem_iff.mp hname)
      have hsame := hread names rfl name hmem (of_decide_eq_true hdefinition)
      exact ⟨_, Prod.ext hsame (LawfulFiles.readText_world _ other),
        Prod.ext rfl (LawfulFiles.readText_world _ tree)⟩

end Load

/-! ## File by file -/

namespace FileTree

/-- Why a file is no definition: it cannot be read as text, the text does not say what a family is,
or the family has a fault. -/
inductive Unusable (tree : FileTree) (path : String) : LoadError → Prop where
  | unreadable {cause : OsError}
      (htext : (perform (FileSystem.readText path) tree).1 = .error cause) :
      Unusable tree path (.io cause)
  | undecodable {text : String} (htext : (perform (FileSystem.readText path) tree).1 = .ok text)
      (hfamily : Family.ofDocument? text = none) : Unusable tree path (.malformed path)
  | faulty {text : String} {family : Family} {invalid : Family.Invalid}
      (htext : (perform (FileSystem.readText path) tree).1 = .ok text)
      (hfamily : Family.ofDocument? text = some family)
      (hfault : family.validate = .error invalid) : Unusable tree path (.invalid invalid)

theorem isPresent_of_list {tree : FileTree} {path : String} {names : List String}
    (hlist : tree.list path = .ok names) : tree.isPresent path = true := by
  unfold isPresent
  unfold list at hlist
  cases hfind : tree.find path with
  | error cause =>
      rw [hfind] at hlist
      cases hlist
  | ok found => rfl

variable {tree : FileTree} {path : String} {family : Family} {error : LoadError} {catalog : Catalog}

/-- What a definition file says, if it could be read. -/
def definitionOf (path : String) : Except OsError String → Except LoadError Family
  | .error cause => .error (.io cause)
  | .ok text =>
    match Family.ofDocument? text with
    | some family => .ok family
    | none => .error (.malformed path)

theorem readDefinition_run (path : String) (tree : FileTree) :
    perform (Catalog.readDefinition path) tree =
      (definitionOf path (perform (FileSystem.readText path) tree).1, tree) := by
  unfold Catalog.readDefinition
  rw [perform_bind, LawfulFiles.readText_world]
  cases (perform (FileSystem.readText path) tree).1 with
  | error cause => rfl
  | ok text =>
      unfold definitionOf
      dsimp only
      cases Family.ofDocument? text <;> rfl

/-- What becomes of the first file depends on what it says. -/
theorem insertDefinitions_run (catalog : Catalog) (path : String) (rest : List String)
    (tree : FileTree) :
    (perform (catalog.insertDefinitions (path :: rest)) tree).1.2 =
      match definitionOf path (perform (FileSystem.readText path) tree).1 with
      | .error error => .error error
      | .ok family =>
        match catalog.insert family with
        | .error invalid => .error (.invalid invalid)
        | .ok extended => (perform (extended.insertDefinitions rest) tree).1.2 := by
  rw [Catalog.insertDefinitions, perform_bind, readDefinition_run]
  cases definitionOf path (perform (FileSystem.readText path) tree).1 with
  | error error => rfl
  | ok family =>
      dsimp only
      cases catalog.insert family <;> rfl

theorem Defines.insert (defines : tree.Defines path family) :
    catalog.insert family = .ok ⟨Catalog.place family catalog.families⟩ := by
  obtain ⟨-, -, -, hformed⟩ := defines
  exact Catalog.insert_eq_ok_iff.mpr ⟨hformed, rfl⟩

/-- A definition is inserted, and then come the other files. -/
theorem Defines.insertDefinitions (defines : tree.Defines path family) (rest : List String) :
    (perform (catalog.insertDefinitions (path :: rest)) tree).1.2 =
      (perform ((⟨Catalog.place family catalog.families⟩ : Catalog).insertDefinitions rest)
        tree).1.2 := by
  have hinsert : catalog.insert family = .ok ⟨Catalog.place family catalog.families⟩ :=
    defines.insert
  obtain ⟨text, htext, hfamily, -⟩ := defines
  rw [insertDefinitions_run, htext, definitionOf, hfamily]
  dsimp only
  rw [hinsert]

/-- An unusable file ends the load, whatever comes after it. -/
theorem Unusable.insertDefinitions (unusable : tree.Unusable path error) (rest : List String) :
    (perform (catalog.insertDefinitions (path :: rest)) tree).1.2 = .error error := by
  rw [insertDefinitions_run]
  cases unusable with
  | unreadable htext => rw [htext, definitionOf]
  | undecodable htext hfamily => rw [htext, definitionOf, hfamily]
  | @faulty text family invalid htext hfamily hfault =>
      have hinsert : catalog.insert family = .error invalid := by
        unfold Catalog.insert
        rw [hfault]
        rfl
      rw [htext, definitionOf, hfamily]
      dsimp only
      rw [hinsert]

theorem defines_or_unusable (tree : FileTree) (path : String) :
    (∃ family, tree.Defines path family) ∨ ∃ error, tree.Unusable path error := by
  cases htext : (perform (FileSystem.readText path) tree).1 with
  | error cause => exact .inr ⟨_, .unreadable htext⟩
  | ok text =>
      cases hfamily : Family.ofDocument? text with
      | none => exact .inr ⟨_, .undecodable htext hfamily⟩
      | some family =>
          cases hfault : family.fault? with
          | none =>
              exact .inl ⟨family, text, htext, hfamily, family.fault?_eq_none_iff.mp hfault⟩
          | some fault =>
              refine .inr ⟨.invalid ⟨family.label, fault⟩, .faulty htext hfamily ?_⟩
              unfold Family.validate
              rw [hfault]

theorem Defines.not_unusable (defines : tree.Defines path family) :
    ¬tree.Unusable path error := by
  obtain ⟨text, htext, hfamily, hformed⟩ := defines
  intro unusable
  cases unusable with
  | unreadable herror => cases htext.symm.trans herror
  | undecodable hother hnone =>
      obtain rfl := Except.ok.inj (htext.symm.trans hother)
      cases hfamily.symm.trans hnone
  | faulty hother hsome hfault =>
      obtain rfl := Except.ok.inj (htext.symm.trans hother)
      obtain rfl := Option.some.inj (hfamily.symm.trans hsome)
      unfold Family.validate at hfault
      rw [family.fault?_eq_none_iff.mpr hformed] at hfault
      cases hfault

/-- There is one reason why a file is no definition. -/
theorem Unusable.unique (unusable : tree.Unusable path error) {another : LoadError}
    (others : tree.Unusable path another) : error = another := by
  have hfirst : (perform (Catalog.builtin.insertDefinitions [path]) tree).1.2 = .error error :=
    unusable.insertDefinitions []
  have hsecond : (perform (Catalog.builtin.insertDefinitions [path]) tree).1.2 = .error another :=
    others.insertDefinitions []
  exact Except.error.inj (hfirst.symm.trans hsecond)

/-- The families of definition files are inserted, one after the other. -/
theorem insertDefinitions_eq_ok_iff {paths : List String} {loaded : Catalog} :
    (perform (catalog.insertDefinitions paths) tree).1.2 = .ok loaded ↔
      ∃ families, List.Forall₂ tree.Defines paths families ∧
        families.foldlM Catalog.insert catalog = .ok loaded := by
  induction paths generalizing catalog with
  | nil =>
      show Except.ok catalog = .ok loaded ↔ _
      constructor
      · intro hloaded
        obtain rfl : catalog = loaded := Except.ok.inj hloaded
        exact ⟨[], .nil, rfl⟩
      · rintro ⟨families, hdefine, hinserted⟩
        cases hdefine
        obtain rfl : catalog = loaded := Except.ok.inj hinserted
        rfl
  | cons path rest ih =>
      constructor
      · intro hloaded
        rcases tree.defines_or_unusable path with ⟨family, defines⟩ | ⟨error, unusable⟩
        · rw [defines.insertDefinitions] at hloaded
          obtain ⟨families, hdefine, hinserted⟩ := ih.mp hloaded
          refine ⟨family :: families, .cons defines hdefine, ?_⟩
          rw [List.foldlM_cons, defines.insert]
          exact hinserted
        · rw [unusable.insertDefinitions] at hloaded
          cases hloaded
      · rintro ⟨families, hdefine, hinserted⟩
        obtain ⟨family, others, defines, hothers, rfl⟩ := List.forall₂_cons_left_iff.mp hdefine
        rw [List.foldlM_cons, defines.insert] at hinserted
        rw [defines.insertDefinitions]
        exact ih.mpr ⟨others, hothers, hinserted⟩

/-- The first file that is no definition is reported. -/
theorem insertDefinitions_eq_error_iff {paths : List String} :
    (perform (catalog.insertDefinitions paths) tree).1.2 = .error error ↔
      ∃ before path after, paths = before ++ path :: after ∧
        (∀ earlier ∈ before, ∃ family, tree.Defines earlier family) ∧
        tree.Unusable path error := by
  induction paths generalizing catalog with
  | nil =>
      refine iff_of_false (fun hloaded => by cases hloaded) ?_
      rintro ⟨before, path, after, hpaths, -⟩
      exact absurd hpaths.symm (List.append_ne_nil_of_right_ne_nil _ (List.cons_ne_nil _ _))
  | cons path rest ih =>
      rcases tree.defines_or_unusable path with ⟨family, defines⟩ | ⟨reported, unusable⟩
      · rw [defines.insertDefinitions, ih]
        constructor
        · rintro ⟨before, first, after, rfl, hbefore, hunusable⟩
          exact ⟨path :: before, first, after, rfl,
            List.forall_mem_cons.mpr ⟨⟨family, defines⟩, hbefore⟩, hunusable⟩
        · rintro ⟨before, first, after, hpaths, hbefore, hunusable⟩
          rcases List.cons_eq_append_iff.mp hpaths with ⟨rfl, hfirst⟩ | ⟨others, rfl, hrest⟩
          · obtain ⟨rfl, rfl⟩ := List.cons.inj hfirst
            exact absurd hunusable defines.not_unusable
          · exact ⟨others, first, after, hrest, (List.forall_mem_cons.mp hbefore).2, hunusable⟩
      · rw [unusable.insertDefinitions]
        constructor
        · intro hreported
          obtain rfl : reported = error := Except.error.inj hreported
          exact ⟨[], path, rest, rfl, fun _ hmem => absurd hmem List.not_mem_nil, unusable⟩
        · rintro ⟨before, first, after, hpaths, hbefore, hunusable⟩
          -- Nothing stands before the first file, since that is no definition.
          rcases List.cons_eq_append_iff.mp hpaths with ⟨rfl, hfirst⟩ | ⟨others, rfl, -⟩
          · obtain ⟨rfl, rfl⟩ := List.cons.inj hfirst
            exact congrArg Except.error (unusable.unique hunusable)
          · obtain ⟨family, defines⟩ := hbefore path List.mem_cons_self
            exact absurd unusable defines.not_unusable

end FileTree

/-- **Loading does not depend on listings.**  Load a catalog from a directory of any tree whose
directories list their names in any order.  Another tree with the same definition files gives the
same catalog or the same error in any other order, whatever else lies in the directory.  Without the
directory it is the built-in catalog, and a directory that cannot be listed is reported.  Otherwise
take the names that end in `.toml`, after something, by their bytes in ascending order.  If all
these files are definitions, their families are inserted into the built-in catalog in this order.
If not, the first of them that is none is reported, and nothing else is. -/
theorem loaded_in_order_of_names (tree : FileTree) (order : ListingOrder) (directory : String) :
    let loaded := (perform (Catalog.load directory) (⟨tree, order⟩ : ListedTree)).1
    (∀ another : ListingOrder,
      (perform (Catalog.load directory) (⟨tree, another⟩ : ListedTree)).1 = loaded) ∧
    (∀ other another, SameDefinitions directory tree other →
      (perform (Catalog.load directory) (⟨other, another⟩ : ListedTree)).1 = loaded) ∧
    (tree.isPresent directory = false → loaded.2 = .ok .builtin) ∧
    (∀ cause, tree.isPresent directory = true → tree.list directory = .error cause →
      loaded.2 = .error (.io cause)) ∧
    ∀ names, tree.list directory = .ok names → ∃ ordered : List String,
      ordered.Perm (names.filter fun name => Catalog.IsDefinitionName name) ∧
      (ordered.Pairwise fun earlier later => Text.bytes earlier ≤ Text.bytes later) ∧
      let paths := ordered.map (Path.join directory)
      (∀ catalog, loaded.2 = .ok catalog ↔ ∃ families, List.Forall₂ tree.Defines paths families ∧
        families.foldlM Catalog.insert .builtin = .ok catalog) ∧
      ∀ error, loaded.2 = .error error ↔ ∃ before path after, paths = before ++ path :: after ∧
        (∀ earlier ∈ before, ∃ family, tree.Defines earlier family) ∧ tree.Unusable path error := by
  intro loaded
  have hrun : loaded = _ := ListedTree.load_run ⟨tree, order⟩ directory
  dsimp only at hrun
  refine ⟨fun another => ?_, fun other another same => same.load order another, fun habsent => ?_,
    fun cause hpresent hlist => ?_, fun names hlist => ?_⟩
  · exact (ListedTree.load_run ⟨tree, another⟩ directory).trans hrun.symm
  · rw [hrun, habsent]
    rfl
  · rw [hrun, hpresent, hlist]
    rfl
  · have hpresent : tree.isPresent directory = true := FileTree.isPresent_of_list hlist
    have hloaded : loaded.2 = (perform (Catalog.builtin.insertDefinitions
        ((Catalog.definitionNames names).map (Path.join directory))) tree).1.2 := by
      rw [hrun, hpresent, hlist]
      rfl
    refine ⟨Catalog.definitionNames names, Catalog.definitionNames_perm names, ?_, ?_, ?_⟩
    · exact (Catalog.pairwise_definitionNames names).imp Text.le_iff_bytes_le.mp
    · intro catalog
      rw [hloaded]
      exact FileTree.insertDefinitions_eq_ok_iff
    · intro error
      rw [hloaded]
      exact FileTree.insertDefinitions_eq_error_iff

namespace ListingOrder

/-- Names in the order in which they come. -/
def plain : ListingOrder :=
  ⟨fun _ names => names, fun _ names => .refl names⟩

/-- The last name first. -/
def backwards : ListingOrder :=
  ⟨fun _ names => names.reverse, fun _ names => names.reverse_perm⟩

end ListingOrder

/-- A lamp of some brightness. -/
def lamp (maximum : Int64) : Family where
  id := "lamp"
  name := "Lamp"
  controls := [{ name := "level", path := "/lamp", maximum := maximum, default := 0 }]

/-- The text of a definition file for a lamp. -/
def lampDefinition (maximum : Int64) : String :=
  "id = \"lamp\"\nname = \"Lamp\"\n[[controls]]\nname = \"level\"\npath = \"/lamp\"\nmax = " ++
    Decimal.text maximum.toInt ++ "\ndefault = 0\n"

/-- A directory of definitions with the given files. -/
def definitionTree (files : List (String × String)) : FileTree :=
  ⟨["work"], (["work"], .directory) :: (["work", "families"], .directory) ::
    files.map fun file => (["work", "families", file.1], .file file.2.toUTF8)⟩

/-- Two files define one lamp, and the later name wins; what is beside them does not matter, nor how
they are listed. -/
theorem later_lamp_loaded :
    let tree := definitionTree
      [("b.toml", lampDefinition 7), ("notes", "?"), ("a.toml", lampDefinition 3)]
    let tidy := definitionTree [("a.toml", lampDefinition 3), ("b.toml", lampDefinition 7)]
    let loaded := fun files order =>
      (perform (Catalog.load "families") (⟨files, order⟩ : ListedTree)).1
    tree.list "families" = .ok ["b.toml", "notes", "a.toml"] ∧
      SameDefinitions "families" tree tidy ∧
      loaded tidy .backwards = loaded tree .plain ∧
      ∃ catalog, (loaded tree .plain).2 = .ok catalog ∧ catalog.get? "lamp" = some (lamp 7) := by
  intro tree tidy loaded
  have hlist : tree.list "families" = .ok ["b.toml", "notes", "a.toml"] := by decide +kernel
  have htidy : tidy.list "families" = .ok ["a.toml", "b.toml"] := by decide +kernel
  have same : SameDefinitions "families" tree tidy := by
    refine ⟨by decide +kernel, ?_, fun names hnames => ?_⟩
    · rw [hlist, htidy]
      exact .listed (by decide +kernel)
    · obtain rfl := Except.ok.inj (hlist.symm.trans hnames)
      decide +kernel
  obtain ⟨-, hother, -, -, hnames⟩ := loaded_in_order_of_names tree .plain "families"
  obtain ⟨ordered, hperm, hascending, hloaded, -⟩ := hnames _ hlist
  have hordered : ordered = ["a.toml", "b.toml"] :=
    (hperm.trans (by decide +kernel)).eq_of_pairwise (fun _ _ _ _ hle hge =>
      String.le_antisymm (Text.le_iff_bytes_le.mpr hle) (Text.le_iff_bytes_le.mpr hge))
      hascending (by decide +kernel)
  have hdim : tree.Defines "families/a.toml" (lamp 3) :=
    ⟨lampDefinition 3, by decide +kernel, by decide +kernel, by decide +kernel⟩
  have hbright : tree.Defines "families/b.toml" (lamp 7) :=
    ⟨lampDefinition 7, by decide +kernel, by decide +kernel, by decide +kernel⟩
  rw [hordered] at hloaded
  refine ⟨hlist, same, hother tidy .backwards same, _,
    (hloaded _).mpr ⟨[lamp 3, lamp 7], .cons hdim (.cons hbright .nil), rfl⟩, ?_⟩
  decide +kernel

end KernelControls
