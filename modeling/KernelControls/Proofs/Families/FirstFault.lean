import KernelControls.Proofs.Families.Validation

/-!
# The first fault of a family

A family is accepted just if it meets every requirement, and of a family that does not the first
unmet requirement is reported.  The requirements stand in one list: the family's own, and then those
of its controls, one control after the other, the last of each being a name of its own.

## Strategy

Looking for a fault and reading the list of requirements go side by side.  `firstUnmet_check` is one
check, `firstUnmet_append` puts two stretches of checks together, and the induction along the
controls carries those that came before, because the last requirement of a control is about them.
-/

namespace KernelControls

namespace Family

/-- Something that a family must meet, and the fault of one that does not. -/
structure Requirement where
  Met : Prop
  fault : Fault

/-- A fault is that of the first requirement that is not met. -/
def FirstUnmet (requirements : List Requirement) (fault : Fault) : Prop :=
  ∃ before requirement after, requirements = before ++ requirement :: after ∧
    (∀ earlier ∈ before, earlier.Met) ∧ ¬requirement.Met ∧ requirement.fault = fault

end Family

open Family (Requirement FirstUnmet)

/-- What a control must meet by itself, in the order in which it is checked. -/
def Control.requirements (control : Control) : List Requirement :=
  [⟨control.name ≠ "", .unnamedControl⟩,
    ⟨∃ rest, control.path = "/" ++ rest, .relativePath control.name control.path⟩,
    ⟨control.minimum ≤ control.maximum,
      .emptyRange control.name control.minimum control.maximum⟩,
    ⟨control.minimum ≤ control.default ∧ control.default ≤ control.maximum,
      .defaultOutside control.name control.default control.minimum control.maximum⟩] ++
  match control.codec with
  | .linear factor => [⟨1 ≤ factor, .factorBelowOne control.name factor⟩]
  | .identity | .signedOffset => []

/-- What a control must meet behind other controls: also that its name is none of theirs. -/
def Control.requirementsBehind (earlier : List Control) (control : Control) : List Requirement :=
  control.requirements ++
    [⟨∀ other ∈ earlier, other.name ≠ control.name, .duplicateControl control.name⟩]

namespace Family

/-- What a family must meet, in the order in which it is checked. -/
def requirements (family : Family) : List Requirement :=
  ⟨family.id ≠ "", .missingId⟩ :: ⟨family.controls ≠ [], .noControls⟩ ::
    family.controls.zipIdx.flatMap fun placed =>
      placed.1.requirementsBehind (family.controls.take placed.2)

/-! ## One check after the other -/

variable {requirements rest : List Requirement} {requirement : Requirement} {fault : Fault}

theorem not_firstUnmet_nil : ¬FirstUnmet [] fault := by
  rintro ⟨before, requirement, after, hnil, -⟩
  exact absurd hnil.symm (List.append_ne_nil_of_right_ne_nil _ (List.cons_ne_nil _ _))

theorem firstUnmet_cons : FirstUnmet (requirement :: rest) fault ↔
    ¬requirement.Met ∧ requirement.fault = fault ∨ requirement.Met ∧ FirstUnmet rest fault := by
  constructor
  · rintro ⟨before, unmet, after, hlist, hbefore, hunmet, hfault⟩
    rcases List.cons_eq_append_iff.mp hlist with ⟨rfl, hfirst⟩ | ⟨others, rfl, hrest⟩
    · obtain ⟨rfl, -⟩ := List.cons.inj hfirst
      exact .inl ⟨hunmet, hfault⟩
    · obtain ⟨hmet, hothers⟩ := List.forall_mem_cons.mp hbefore
      exact .inr ⟨hmet, others, unmet, after, hrest, hothers, hunmet, hfault⟩
  · rintro (⟨hunmet, hfault⟩ | ⟨hmet, before, unmet, after, rfl, hbefore, hunmet, hfault⟩)
    · exact ⟨[], requirement, rest, rfl, fun _ hmem => absurd hmem List.not_mem_nil, hunmet, hfault⟩
    · exact ⟨requirement :: before, unmet, after, rfl, List.forall_mem_cons.mpr ⟨hmet, hbefore⟩,
        hunmet, hfault⟩

theorem firstUnmet_append : FirstUnmet (requirements ++ rest) fault ↔
    FirstUnmet requirements fault ∨
      (∀ requirement ∈ requirements, requirement.Met) ∧ FirstUnmet rest fault := by
  induction requirements with
  | nil => simp [not_firstUnmet_nil]
  | cons first more ih =>
      rw [List.cons_append, firstUnmet_cons, firstUnmet_cons, ih, List.forall_mem_cons]
      tauto

theorem firstUnmet_check {failing met : Prop} [Decidable failing] {own : Fault}
    {later : Option Fault} (hfailing : failing ↔ ¬met)
    (hlater : later = some fault ↔ FirstUnmet rest fault) :
    (if failing then some own else later) = some fault ↔ FirstUnmet (⟨met, own⟩ :: rest) fault := by
  rw [firstUnmet_cons, ← hlater]
  by_cases hunmet : failing
  · rw [if_pos hunmet, Option.some_inj]
    have hmet := hfailing.mp hunmet
    tauto
  · rw [if_neg hunmet]
    have hmet := not_not.mp (mt hfailing.mpr hunmet)
    tauto

end Family

/-! ## One control -/

theorem Path.isAbsolute_eq_true_iff {path : String} :
    Path.isAbsolute path = true ↔ ∃ rest, path = "/" ++ rest := by
  unfold Path.isAbsolute
  rw [beq_iff_eq, List.head?_eq_some_iff]
  constructor
  · rintro ⟨rest, hpath⟩
    refine ⟨String.ofList rest, ?_⟩
    rw [← String.toList_inj, hpath]
    simp
  · rintro ⟨rest, rfl⟩
    exact ⟨rest.toList, by simp⟩

namespace Control

open Family (firstUnmet_check firstUnmet_append)

variable (control : Control) {fault : Family.Fault}

/-- What a control must meet by itself is what makes it well formed. -/
theorem wellFormed_iff_met :
    control.WellFormed ↔ ∀ requirement ∈ control.requirements, requirement.Met := by
  have hfactor : (∀ factor, control.codec = .linear factor → 1 ≤ factor) ↔
      ∀ requirement ∈ (match control.codec with
        | .linear factor => [⟨1 ≤ factor, .factorBelowOne control.name factor⟩]
        | .identity | .signedOffset => [] : List Requirement), requirement.Met := by
    cases control.codec <;> simp
  simp only [requirements, List.mem_append, or_imp, forall_and, List.mem_cons, forall_eq,
    List.not_mem_nil, false_imp_iff, and_true, ← Path.isAbsolute_eq_true_iff, ← hfactor]
  constructor
  · intro h
    exact ⟨⟨h.name, h.path, h.minimum_le_maximum, h.minimum_le, h.le_maximum⟩, h.factor⟩
  · rintro ⟨⟨hname, hpath, -, hminimum, hmaximum⟩, hfactor⟩
    exact ⟨hname, hpath, hminimum, hmaximum, hfactor⟩

theorem fault?_eq_some_iff :
    control.fault? = some fault ↔ FirstUnmet control.requirements fault := by
  unfold fault? requirements
  simp only [List.cons_append, List.nil_append]
  refine firstUnmet_check (by simp) ?_
  refine firstUnmet_check (by simp [← Path.isAbsolute_eq_true_iff]) ?_
  refine firstUnmet_check (by simp) ?_
  refine firstUnmet_check (by simp [contains, -not_and, not_and_or]) ?_
  cases control.codec with
  | linear factor => exact firstUnmet_check (by simp) (by simp [Family.not_firstUnmet_nil])
  | identity => simp [Family.not_firstUnmet_nil]
  | signedOffset => simp [Family.not_firstUnmet_nil]

end Control

/-! ## All controls of a family -/

namespace Family

variable {fault : Fault}

theorem controlsFault?_cons {noted : List String} {before : List Control} {control : Control}
    (hnoted : ∀ name, name ∈ noted ↔ ∃ other ∈ before, other.name = name) (rest : List Control) :
    controlsFault? noted (control :: rest) = some fault ↔
      FirstUnmet (control.requirementsBehind before) fault ∨
        (∀ requirement ∈ control.requirementsBehind before, requirement.Met) ∧
          controlsFault? (control.name :: noted) rest = some fault := by
  have hfresh : control.name ∈ noted ↔ ¬∀ other ∈ before, other.name ≠ control.name := by
    rw [hnoted]
    push Not
    rfl
  rw [controlsFault?, Control.requirementsBehind, firstUnmet_append, firstUnmet_cons,
    ← control.fault?_eq_some_iff, List.forall_mem_append, List.forall_mem_singleton,
    ← control.wellFormed_iff_met, ← control.fault?_eq_none_iff]
  generalize (∀ other ∈ before, other.name ≠ control.name) = fresh at hfresh ⊢
  cases control.fault? with
  | some own => simp
  | none =>
      by_cases hknown : control.name ∈ noted
      · simp [hknown, hfresh.mp hknown, not_firstUnmet_nil]
      · simp [hknown, not_not.mp (mt hfresh.mpr hknown), not_firstUnmet_nil]

/-- Controls that follow others are checked one after the other. -/
theorem controlsFault?_eq_some_iff {noted : List String} {before rest : List Control}
    (hnoted : ∀ name, name ∈ noted ↔ ∃ other ∈ before, other.name = name) :
    controlsFault? noted rest = some fault ↔
      FirstUnmet ((rest.zipIdx before.length).flatMap fun placed =>
        placed.1.requirementsBehind ((before ++ rest).take placed.2)) fault := by
  induction rest generalizing noted before with
  | nil => simp [controlsFault?, not_firstUnmet_nil]
  | cons control rest ih =>
      have hnext : ∀ name, name ∈ control.name :: noted ↔
          ∃ other ∈ before ++ [control], other.name = name := by
        intro name
        rw [List.mem_cons, hnoted]
        simp only [List.mem_append, List.mem_singleton, or_and_right, exists_or, exists_eq_left]
        rw [or_comm, eq_comm]
      have hrest := ih hnext
      rw [List.length_append, List.length_singleton, List.append_assoc, List.singleton_append]
        at hrest
      rw [controlsFault?_cons hnoted, hrest, List.zipIdx_cons, List.flatMap_cons,
        firstUnmet_append, List.take_left]

theorem fault?_eq_some_iff (family : Family) :
    family.fault? = some fault ↔ FirstUnmet family.requirements fault := by
  unfold fault? requirements
  refine firstUnmet_check (by simp) (firstUnmet_check (by simp) ?_)
  have hnoted : ∀ name, name ∈ ([] : List String) ↔
      ∃ other ∈ ([] : List Control), other.name = name := by simp
  exact controlsFault?_eq_some_iff hnoted

theorem validate_eq_ok_iff (family : Family) : family.validate = .ok () ↔ family.fault? = none := by
  unfold validate
  cases family.fault? <;> simp

theorem validate_eq_error_iff (family : Family) (invalid : Invalid) :
    family.validate = .error invalid ↔
      invalid.family = family.label ∧ family.fault? = some invalid.fault := by
  obtain ⟨name, reported⟩ := invalid
  unfold validate
  cases family.fault? with
  | none => simp
  | some fault => simp [eq_comm]

/-- **Accepted, or refused for the first fault.**  A family is accepted just if it has an id and
controls, every control has a name, an absolute path, a range that is not empty with the default in
it and, where it is linear, a factor of at least one, and the names of the controls are different.
Otherwise it is refused under its id, or under its name where it has none, for the first requirement
that it does not meet: the id, the controls, and then control by control its name, its path, its
range, its default, its factor, and that its name is not that of an earlier control. -/
theorem validated_up_to_first_fault (family : Family) :
    (family.validate = .ok () ↔
      family.id ≠ "" ∧ family.controls ≠ [] ∧
      (∀ control ∈ family.controls,
        control.name ≠ "" ∧ (∃ rest, control.path = "/" ++ rest) ∧
        control.minimum ≤ control.maximum ∧
        control.minimum ≤ control.default ∧ control.default ≤ control.maximum ∧
        ∀ factor, control.codec = .linear factor → 1 ≤ factor) ∧
      (family.controls.map Control.name).Nodup) ∧
    ∀ invalid, family.validate = .error invalid ↔
      invalid.family = (if family.id = "" then family.name else family.id) ∧
        FirstUnmet family.requirements invalid.fault := by
  refine ⟨?_, fun invalid => ?_⟩
  · rw [validate_eq_ok_iff, fault?_eq_none_iff]
    simp only [← Path.isAbsolute_eq_true_iff]
    constructor
    · intro h
      refine ⟨h.id, h.controls, fun control hcontrol => ?_, h.names⟩
      have hformed := h.wellFormed control hcontrol
      exact ⟨hformed.name, hformed.path, hformed.minimum_le_maximum, hformed.minimum_le,
        hformed.le_maximum, hformed.factor⟩
    · rintro ⟨hid, hcontrols, hformed, hnames⟩
      refine ⟨hid, hcontrols, hnames, fun control hcontrol => ?_⟩
      obtain ⟨hname, hpath, -, hminimum, hmaximum, hfactor⟩ := hformed control hcontrol
      exact ⟨hname, hpath, hminimum, hmaximum, hfactor⟩
  · rw [validate_eq_error_iff, fault?_eq_some_iff]
    simp only [label, String.isEmpty_iff]

/-- A name that is taken is only found out where the control is sound otherwise. -/
example : Family.validate { id := "f", name := "F", controls :=
      [⟨"a", "/a", .identity, 0, 1, 0⟩, ⟨"a", "/b", .linear 0, 0, 1, 0⟩] } =
    .error ⟨"f", .factorBelowOne "a" 0⟩ := by
  decide

end Family

end KernelControls
