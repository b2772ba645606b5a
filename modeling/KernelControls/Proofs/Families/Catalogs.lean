import KernelControls.Catalog
import KernelControls.Proofs.Families.Validation
import Mathlib.Data.List.Nodup

/-!
# Catalogs made by insertions

Whatever families are inserted into the built-in catalog, one after the other, the catalog that
comes out has no fault: its ids are all different, and so are the names of the controls within
each of its families.  So a family is found under its id, and a control under its name.

## Strategy

An insertion that is accepted validates its family first and then puts it where its id stands, or
at the end.  What `Catalog.place` does to the ids is known, and to the families it adds no other
than the validated one; an induction along the insertions does the rest.
-/

namespace KernelControls

/-! ## Finding by distinct keys -/

/-- Among items with distinct keys, every one is found under its key. -/
theorem find?_of_nodup_keys {Item Key : Type} [DecidableEq Key] {items : List Item}
    {key : Item → Key} (hkeys : (items.map key).Nodup) {item : Item} (hitem : item ∈ items) :
    items.find? (fun other => key other = key item) = some item := by
  have hsome : (items.find? fun other => key other = key item).isSome = true :=
    List.find?_isSome.mpr ⟨item, hitem, decide_eq_true rfl⟩
  obtain ⟨found, hfound⟩ := Option.isSome_iff_exists.mp hsome
  have hkey : key found = key item := by
    simpa using List.find?_some hfound
  have hsame : found = item :=
    List.inj_on_of_nodup_map hkeys (List.mem_of_find?_eq_some hfound) hitem hkey
  rw [hfound, hsame]

/-! ## Families without fault -/

namespace Family

variable {family : Family}

/-- A family without fault has controls, and their names are distinct. -/
theorem controls_of_fault?_eq_none (hnone : family.fault? = none) :
    family.controls ≠ [] ∧ (family.controls.map Control.name).Nodup :=
  have hformed := family.fault?_eq_none_iff.mp hnone
  ⟨hformed.controls, hformed.names⟩

theorem control?_of_fault?_eq_none (hnone : family.fault? = none) {control : Control}
    (hcontrol : control ∈ family.controls) : family.control? control.name = some control :=
  find?_of_nodup_keys (controls_of_fault?_eq_none hnone).2 hcontrol

end Family

/-! ## Catalogs without fault -/

namespace Catalog

/-- A catalog whose ids are distinct and whose families have no fault. -/
structure Sound (catalog : Catalog) : Prop where
  ids : catalog.ids.Nodup
  faultless : ∀ family ∈ catalog.families, family.fault? = none

theorem sound_builtin : builtin.Sound where
  ids := by decide +kernel
  faultless := Family.fault?_builtin

/-- Placing a family brings in no other one. -/
theorem mem_place {family other : Family} {families : List Family}
    (hother : other ∈ place family families) : other = family ∨ other ∈ families := by
  induction families with
  | nil => exact .inl (List.mem_singleton.mp hother)
  | cons known rest ih =>
      unfold place at hother
      split at hother
      · exact (List.mem_cons.mp hother).imp_right (List.mem_cons_of_mem _)
      · rcases List.mem_cons.mp hother with rfl | hlater
        · exact .inr List.mem_cons_self
        · exact (ih hlater).imp_right (List.mem_cons_of_mem _)

variable {catalog extended : Catalog}

/-- An accepted insertion places a family without fault. -/
theorem insert_eq_ok {family : Family} (hinsert : catalog.insert family = .ok extended) :
    family.fault? = none ∧ extended = ⟨place family catalog.families⟩ := by
  unfold insert Family.validate at hinsert
  cases hfault : family.fault? with
  | some fault =>
      rw [hfault] at hinsert
      cases hinsert
  | none =>
      rw [hfault] at hinsert
      exact ⟨rfl, (Except.ok.inj hinsert).symm⟩

theorem get?_of_insert {family : Family} (hinsert : catalog.insert family = .ok extended) :
    extended.get? family.id = some family := by
  obtain ⟨-, rfl⟩ := insert_eq_ok hinsert
  exact (find?_place family catalog.families family.id).trans (if_pos rfl)

namespace Sound

theorem insert (sound : catalog.Sound) {family : Family}
    (hinsert : catalog.insert family = .ok extended) : extended.Sound := by
  obtain ⟨hfault, rfl⟩ := insert_eq_ok hinsert
  refine ⟨?_, fun other hother => ?_⟩
  · show ((place family catalog.families).map Family.id).Nodup
    rw [ids_place]
    split
    · exact sound.ids
    · next hfresh =>
        rw [← List.concat_eq_append]
        exact sound.ids.concat hfresh
  · rcases mem_place hother with rfl | hknown
    · exact hfault
    · exact sound.faultless other hknown

/-- A catalog that is sound stays so along accepted insertions. -/
theorem inserts (sound : catalog.Sound) {families : List Family}
    (hinserts : families.foldlM Catalog.insert catalog = .ok extended) : extended.Sound := by
  induction families generalizing catalog with
  | nil =>
      obtain rfl : catalog = extended := Except.ok.inj hinserts
      exact sound
  | cons family rest ih =>
      rw [List.foldlM_cons] at hinserts
      cases hfirst : catalog.insert family with
      | error invalid =>
          rw [hfirst] at hinserts
          cases hinserts
      | ok next =>
          rw [hfirst] at hinserts
          exact ih (sound.insert hfirst) hinserts

variable (sound : catalog.Sound) {family : Family} (hfamily : family ∈ catalog.families)

include sound hfamily

theorem get? : catalog.get? family.id = some family :=
  find?_of_nodup_keys sound.ids hfamily

theorem control? {control : Control} (hcontrol : control ∈ family.controls) :
    family.control? control.name = some control :=
  Family.control?_of_fault?_eq_none (sound.faultless family hfamily) hcontrol

end Sound

end Catalog

end KernelControls
