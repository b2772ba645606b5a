import KernelControls.Family.Builtin

/-!
# The catalog of families

A catalog is an ordered list of families.  Inserting a family checks it first; a family
whose id is known takes the place of the known one, any other comes last.

## Strategy

`place` is the replacement on lists, without any check, and what it does to the ids and
to look-up is stated beside it.  The catalog's own functions are short compositions.
-/

namespace KernelControls

/-- An ordered set of families. -/
structure Catalog where
  families : List Family
  deriving DecidableEq, Repr

namespace Catalog

/-- Replace the first family of the same id, or append. -/
def place (family : Family) : List Family → List Family
  | [] => [family]
  | known :: rest =>
    if known.id = family.id then family :: rest else known :: place family rest

/-- The catalog of the built-in families. -/
def builtin : Catalog :=
  ⟨Family.builtin⟩

/-- Add a family, or replace the one of its id; a family with a fault is refused. -/
def insert (catalog : Catalog) (family : Family) : Except Family.Invalid Catalog := do
  family.validate
  pure ⟨place family catalog.families⟩

/-- The first family of an id. -/
def get? (catalog : Catalog) (id : String) : Option Family :=
  catalog.families.find? fun family => family.id = id

/-- The ids in order. -/
def ids (catalog : Catalog) : List String :=
  catalog.families.map Family.id

/-- The first control of a name in the family of an id. -/
def control? (catalog : Catalog) (id name : String) : Option Control :=
  (catalog.get? id).bind fun family => family.control? name

/-! ## What placing does to ids and look-up -/

theorem ids_place (family : Family) (families : List Family) :
    (place family families).map Family.id =
      if family.id ∈ families.map Family.id then families.map Family.id
      else families.map Family.id ++ [family.id] := by
  induction families with
  | nil => rfl
  | cons known rest ih =>
    by_cases hsame : known.id = family.id
    · simp [place, hsame]
    · have hdiffers : ¬ family.id = known.id := fun hequal => hsame hequal.symm
      by_cases hlater : family.id ∈ rest.map Family.id
      · rw [if_pos hlater] at ih
        simp only [place, if_neg hsame, List.map_cons, ih]
        rw [if_pos (List.mem_cons_of_mem _ hlater)]
      · rw [if_neg hlater] at ih
        have habsent : family.id ∉ known.id :: rest.map Family.id := by
          rw [List.mem_cons]
          rintro (hfirst | hrest)
          · exact hdiffers hfirst
          · exact hlater hrest
        simp only [place, if_neg hsame, List.map_cons, ih, if_neg habsent, List.cons_append]

@[simp] theorem find?_place (family : Family) (families : List Family) (id : String) :
    (place family families).find? (fun known => known.id = id) =
      if family.id = id then some family else families.find? fun known => known.id = id := by
  induction families with
  | nil => by_cases hsame : family.id = id <;> simp [place, hsame]
  | cons known rest ih =>
    by_cases hhere : known.id = family.id
    · by_cases hsame : family.id = id
      · simp [place, hhere, hsame]
      · simp [place, hhere, hsame]
    · by_cases hsame : family.id = id
      · have hdiffers : ¬ known.id = id := fun hequal => hhere (hequal.trans hsame.symm)
        simp [place, hdiffers, ih, hsame]
      · simp only [place, if_neg hhere, List.find?_cons, ih, if_neg hsame]

end Catalog

end KernelControls
