import KernelControls.Proofs.Backends.Lawful
import KernelControls.Proofs.FileTrees.NodeFiles
import Mathlib.Tactic.TFAE

/-!
# One node, one file

A node may be spelled in many ways, on a bench and below a root alike.  Two spellings are of one
node on a bench if their components are equal.  Below a root they are of one file in exactly the
same case, whatever the root looks like.

## Strategy

What is put behind a root is made of components only, so spellings of one path are resolved to one
text.  For the way back, resolving keeps the components: those of the root come first and then the
names of the path (`components_resolve`), so equal results have equal ends.
-/

namespace KernelControls

namespace Path

/-- Whether a component is a name, neither a place to start from nor a step back. -/
def Component.isName : Component → Bool
  | name _ => true
  | _ => false

variable {root path p q : String}

/-! ## The components behind a root -/

/-- What a path starts with, before its names and steps back. -/
def start (path : String) : List Component :=
  if isAbsolute path then [.root]
  else if (pieces path).head? = some "." then [.here]
  else []

theorem components_eq_start (path : String) : components path = start path ++ named path := by
  unfold components start
  split
  · rfl
  · simp only [beq_iff_eq]
    split <;> rfl

/-- What is put behind a root starts with no dot of its own. -/
theorem head?_pieces_relative (habsolute : isAbsolute path = true) :
    (pieces (relative path)).head? ≠ some "." := by
  have hplain : ∀ component ∈ named path, component.Plain := fun _ => plain_of_mem_named
  have hrelative : relative path = ofComponents (named path) := by
    unfold relative
    rw [components_of_isAbsolute habsolute, List.filter_cons_of_neg (by simp), filter_named]
  rw [hrelative]
  cases hnamed : named path with
  | nil => decide
  | cons first rest =>
      rw [hnamed] at hplain
      obtain ⟨-, hhere, hroot⟩ := (hplain first List.mem_cons_self).text_ne
      have htexts : ofComponents (first :: rest) =
          String.intercalate "/" ((first :: rest).map Component.text) := by
        cases first with
        | root => exact absurd rfl hroot
        | _ => rfl
      rw [htexts, pieces_texts hplain (List.cons_ne_nil _ _)]
      exact fun hhead => hhere (Option.some.inj hhead)

theorem pieces_ne_nil (path : String) : pieces path ≠ [] := fun hnone =>
  List.splitOn_ne_nil _ _ (List.map_eq_nil_iff.mp hnone)

/-- The first piece of a root stays in front. -/
theorem head?_front_append (hsome : root ≠ "") (more : List String) :
    (front root ++ more).head? = (pieces root).head? := by
  have hempty : root.isEmpty = false := by rwa [Bool.eq_false_iff, ne_eq, String.isEmpty_iff]
  unfold front
  rw [hempty, if_neg Bool.false_ne_true]
  split
  · next hslash =>
      obtain ⟨before, -, hpieces⟩ := pieces_eq_front hslash
      rw [hpieces, List.dropLast_concat, List.head?_append_of_ne_nil _ (pieces_ne_nil before),
        List.head?_append_of_ne_nil _ (pieces_ne_nil before)]
  · exact List.head?_append_of_ne_nil _ (pieces_ne_nil root)

/-- A path that is resolved starts like the root. -/
theorem start_resolve (habsolute : isAbsolute path = true) :
    start (resolve root path) = start root := by
  have hpieces : pieces (resolve root path) = front root ++ pieces (relative path) :=
    pieces_join root (relative path)
  have hhead : (pieces (resolve root path)).head? = some "." ↔
      (pieces root).head? = some "." := by
    rw [hpieces]
    by_cases hroot : root = ""
    · -- Behind nothing at all, the path itself would have to start with a dot.
      subst hroot
      exact iff_of_false (head?_pieces_relative habsolute) (by decide)
    · rw [head?_front_append hroot]
  unfold start
  rw [isAbsolute_resolve]
  simp only [hhead]

theorem components_resolve (habsolute : isAbsolute path = true) :
    components (resolve root path) = components root ++ named path := by
  rw [components_eq_start, start_resolve habsolute, named_resolve, ← List.append_assoc,
    ← components_eq_start]

/-- Spellings of one path are resolved to one text. -/
theorem Same.resolve_eq (hsame : Same p q) : resolve root p = resolve root q := by
  unfold resolve
  rw [show components p = components q from hsame]

theorem same_iff_named_eq (hp : isAbsolute p = true) (hq : isAbsolute q = true) :
    Same p q ↔ named p = named q := by
  unfold Same
  rw [components_of_isAbsolute hp, components_of_isAbsolute hq]
  exact List.cons_inj_right _

theorem same_resolve_iff (hp : isAbsolute p = true) (hq : isAbsolute q = true) :
    Same (resolve root p) (resolve root q) ↔ Same p q := by
  rw [same_iff_named_eq hp hq]
  unfold Same
  rw [components_resolve hp, components_resolve hq]
  exact List.append_right_inj _

/-- Of a path that never steps back, everything but the root is a name. -/
theorem filter_isName (habsolute : isAbsolute path = true) (hdown : .up ∉ named path) :
    (components path).filter Component.isName = named path := by
  rw [components_of_isAbsolute habsolute, List.filter_cons_of_neg Bool.false_ne_true,
    List.filter_eq_self]
  intro component hmem
  obtain ⟨name, rfl, -⟩ := exists_name_of_mem_named hdown hmem
  rfl

end Path

/-- On every tree, paths that never step back lead to one place behind a root only if they are
spellings of one another. -/
theorem FileTree.lead_resolve_inj {tree : FileTree} {root p q : String}
    (hp : .up ∉ Path.named p) (hq : .up ∉ Path.named q)
    (hlead : tree.lead (Path.resolve root p) = tree.lead (Path.resolve root q)) :
    Path.named p = Path.named q := by
  rw [lead_resolve_of_down hp, lead_resolve_of_down hq] at hlead
  rw [Path.named_eq_names hp, Path.named_eq_names hq, List.append_cancel_left hlead]

/-- Spellings of one path are one node on every bench, and no other paths are. -/
theorem Bench.value?_eq_iff {p q : String} :
    (∀ bench : Bench, bench.value? p = bench.value? q) ↔ Path.Same p q := by
  constructor
  · intro halike
    -- A bench that has the one node only shows it under the other path, too.
    have hshown := halike { nodes := [(p, "")] }
    by_contra hother
    simp [value?, hother, show Path.Same p p from rfl] at hshown
  · intro hsame bench
    have hnodes : (fun node : String × String => decide (Path.Same node.1 p)) =
        fun node => decide (Path.Same node.1 q) :=
      funext fun node => decide_eq_decide.mpr
        ⟨fun hnode => Eq.trans hnode hsame, fun hnode => Eq.trans hnode hsame.symm⟩
    unfold value?
    rw [hnodes]

/-- **One node, one file.**  Take any root, empty, relative or with slashes at its end, and any
absolute node paths that never step back, in any spelling.  Behind the root, the components of a
path are those of the root and then the names of the path.  Two paths have the same components just
if they have them behind the root, and then they are resolved to one text; they lead to one place in
a tree of files, whichever it is; and every bench has one node for both. -/
theorem one_node_one_file (root : String) {p q : String} (hp : Path.isAbsolute p = true)
    (hq : Path.isAbsolute q = true) (hdownp : .up ∉ Path.components p)
    (hdownq : .up ∉ Path.components q) :
    Path.components (Path.resolve root p) =
        Path.components root ++ (Path.components p).filter Path.Component.isName ∧
      List.TFAE [Path.Same p q,
        Path.Same (Path.resolve root p) (Path.resolve root q),
        Path.resolve root p = Path.resolve root q,
        ∀ tree : FileTree, tree.lead (Path.resolve root p) = tree.lead (Path.resolve root q),
        ∀ bench : Bench, bench.value? p = bench.value? q] := by
  have hnamedp : .up ∉ Path.named p := fun hmem =>
    hdownp (Path.components_of_isAbsolute hp ▸ List.mem_cons_of_mem _ hmem)
  have hnamedq : .up ∉ Path.named q := fun hmem =>
    hdownq (Path.components_of_isAbsolute hq ▸ List.mem_cons_of_mem _ hmem)
  refine ⟨?_, ?_⟩
  · rw [Path.components_resolve hp, Path.filter_isName hp hnamedp]
  tfae_have 1 ↔ 2 := (Path.same_resolve_iff hp hq).symm
  tfae_have 1 → 3 := Path.Same.resolve_eq
  tfae_have 3 → 4 := fun htext tree => by rw [htext]
  tfae_have 4 → 1 := fun hlead =>
    (Path.same_iff_named_eq hp hq).mpr (FileTree.lead_resolve_inj hnamedp hnamedq (hlead ⟨[], []⟩))
  tfae_have 1 ↔ 5 := Bench.value?_eq_iff.symm
  tfae_finish

/-- Two spellings of one node, below a root that is spelled with a dot and a slash. -/
theorem spellings_of_one_file :
    let p := "/sys//class/./misc/"
    let q := "/sys/class/misc"
    Path.resolve "./tree/" p = "./tree/sys/class/misc" ∧
      Path.resolve "./tree/" p = Path.resolve "./tree/" q ∧
      ∀ bench : Bench, bench.value? p = bench.value? q := by
  intro p q
  obtain ⟨-, hiff⟩ := one_node_one_file "./tree/" (p := p) (q := q) (by decide +kernel)
    (by decide +kernel) (by decide +kernel) (by decide +kernel)
  have hsame : Path.Same p q := by decide +kernel
  exact ⟨by decide +kernel, (hiff.out 0 2).mp hsame, (hiff.out 0 4).mp hsame⟩

end KernelControls
