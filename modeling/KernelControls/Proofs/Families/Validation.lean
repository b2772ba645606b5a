import KernelControls.Family
import Mathlib.Data.List.Nodup

/-!
# Families without fault

A family without fault is one that is well formed: it has an id and controls, the names of its
controls are different, and every control has a name, an absolute path, a default inside its range
and, where it is linear, a positive factor.

## Strategy

The faults are looked for in a fixed order, one control after the other, and a name is only compared
with those that came earlier.  So the induction along the controls carries the earlier names: the
controls are well formed, their names are different, and none of them is among the earlier ones.
-/

namespace KernelControls

/-- A control that makes sense by itself. -/
structure Control.WellFormed (control : Control) : Prop where
  name : control.name ≠ ""
  path : Path.isAbsolute control.path = true
  minimum_le : control.minimum ≤ control.default
  le_maximum : control.default ≤ control.maximum
  factor : ∀ factor, control.codec = .linear factor → 1 ≤ factor

/-- A family that makes sense: one with an id and with well-formed controls under different
names. -/
structure Family.WellFormed (family : Family) : Prop where
  id : family.id ≠ ""
  controls : family.controls ≠ []
  names : (family.controls.map Control.name).Nodup
  wellFormed : ∀ control ∈ family.controls, control.WellFormed

/-! ## One control -/

theorem Control.WellFormed.minimum_le_maximum {control : Control} (h : control.WellFormed) :
    control.minimum ≤ control.maximum :=
  Int64.le_trans h.minimum_le h.le_maximum

theorem Control.factorFault?_eq_none_iff (control : Control) :
    (match control.codec with
      | .linear factor =>
        if factor < 1 then some (Family.Fault.factorBelowOne control.name factor) else none
      | .identity | .signedOffset => none) = none ↔
      ∀ factor, control.codec = .linear factor → 1 ≤ factor := by
  cases control.codec with
  | identity => simp
  | signedOffset => simp
  | linear factor => simp [Int64.not_lt]

theorem Control.fault?_eq_none_iff (control : Control) :
    control.fault? = none ↔ control.WellFormed := by
  have hcontains : control.contains control.default = true ↔
      control.minimum ≤ control.default ∧ control.default ≤ control.maximum := by
    simp [contains]
  unfold fault?
  constructor
  · intro hnone
    split at hnone
    · cases hnone
    next hname =>
    split at hnone
    · cases hnone
    next hpath =>
    split at hnone
    · cases hnone
    split at hnone
    · cases hnone
    next hdefault =>
    obtain ⟨hminimum, hmaximum⟩ := hcontains.mp (by simpa using hdefault)
    exact ⟨by simpa using hname, by simpa using hpath, hminimum, hmaximum,
      control.factorFault?_eq_none_iff.mp hnone⟩
  · intro h
    have hrange : ¬control.maximum < control.minimum := Int64.not_lt.mpr h.minimum_le_maximum
    have hdefault := hcontains.mpr ⟨h.minimum_le, h.le_maximum⟩
    rw [if_neg (by simpa using h.name), if_neg (by simp [h.path]), if_neg hrange,
      if_neg (by simp [hdefault])]
    exact control.factorFault?_eq_none_iff.mpr h.factor

/-! ## All controls of a family -/

namespace Family

theorem controlsFault?_eq_none_iff (earlier : List String) (controls : List Control) :
    controlsFault? earlier controls = none ↔
      (∀ control ∈ controls, control.WellFormed) ∧ (controls.map Control.name).Nodup ∧
        ∀ control ∈ controls, control.name ∉ earlier := by
  induction controls generalizing earlier with
  | nil => simp [controlsFault?]
  | cons control rest ih =>
      unfold controlsFault?
      cases hfault : control.fault? with
      | some fault =>
          refine iff_of_false (Option.some_ne_none fault) fun h => ?_
          have hnone := control.fault?_eq_none_iff.mpr (h.1 control List.mem_cons_self)
          rw [hfault] at hnone
          cases hnone
      | none =>
          have hcontrol : control.WellFormed := control.fault?_eq_none_iff.mp hfault
          by_cases hknown : control.name ∈ earlier
          · rw [if_pos hknown]
            exact iff_of_false (Option.some_ne_none _) fun h =>
              h.2.2 control List.mem_cons_self hknown
          · -- The name of this control is an earlier one for all that come after it.
            rw [if_neg hknown, ih, List.forall_mem_cons, List.forall_mem_cons, List.map_cons,
              List.nodup_cons]
            simp only [List.mem_cons, List.mem_map, not_or, not_exists, not_and]
            constructor
            · rintro ⟨hrest, hnames, hfresh⟩
              exact ⟨⟨hcontrol, hrest⟩, ⟨fun later hlater => (hfresh later hlater).1, hnames⟩,
                hknown, fun later hlater => (hfresh later hlater).2⟩
            · rintro ⟨⟨-, hrest⟩, ⟨hdiffers, hnames⟩, -, hearlier⟩
              exact ⟨hrest, hnames, fun later hlater =>
                ⟨hdiffers later hlater, hearlier later hlater⟩⟩

theorem fault?_eq_none_iff (family : Family) : family.fault? = none ↔ family.WellFormed := by
  unfold fault?
  by_cases hid : family.id.isEmpty = true
  · rw [if_pos hid]
    exact iff_of_false (Option.some_ne_none _) fun h => h.id (by simpa using hid)
  rw [if_neg hid]
  by_cases hcontrols : family.controls.isEmpty = true
  · rw [if_pos hcontrols]
    exact iff_of_false (Option.some_ne_none _) fun h => h.controls (by simpa using hcontrols)
  rw [if_neg hcontrols, controlsFault?_eq_none_iff]
  constructor
  · rintro ⟨hall, hnames, -⟩
    exact ⟨by simpa using hid, by simpa using hcontrols, hnames, hall⟩
  · intro h
    exact ⟨h.wellFormed, h.names, fun _ _ => List.not_mem_nil⟩

instance (family : Family) : Decidable family.WellFormed :=
  decidable_of_iff _ family.fault?_eq_none_iff

end Family

end KernelControls
