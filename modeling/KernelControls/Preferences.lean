import KernelControls.Association

/-!
# Preferences

Preferences map keys to the values that a user decided on.  Entries are created or
replaced and never removed.  They are kept in ascending order of their keys, which is the
order in which a preference file lists them, so equal maps are equal values.
-/

namespace KernelControls

/-- Saved values by key, in ascending order of the keys. -/
structure Preferences where
  entries : List (String × Int64)
  ascending : entries.Pairwise fun earlier later => earlier.1 < later.1
  deriving DecidableEq

namespace Preferences

/-- No saved value at all. -/
def empty : Preferences :=
  ⟨[], .nil⟩

/-- Set a key's value at its place in the order. -/
def insertEntry (key : String) (value : Int64) : List (String × Int64) → List (String × Int64)
  | [] => [(key, value)]
  | entry :: rest =>
    if key < entry.1 then (key, value) :: entry :: rest
    else if key = entry.1 then (key, value) :: rest
    else entry :: insertEntry key value rest

theorem mem_insertEntry {key : String} {value : Int64} {entries : List (String × Int64)}
    {entry : String × Int64} (hmember : entry ∈ insertEntry key value entries) :
    entry = (key, value) ∨ entry ∈ entries := by
  induction entries with
  | nil => exact .inl (List.mem_singleton.mp hmember)
  | cons first rest ih =>
    unfold insertEntry at hmember
    split at hmember
    · exact List.mem_cons.mp hmember
    · split at hmember
      · rcases List.mem_cons.mp hmember with hnew | hold
        · exact .inl hnew
        · exact .inr (List.mem_cons_of_mem _ hold)
      · rcases List.mem_cons.mp hmember with hhead | htail
        · exact .inr (hhead ▸ List.mem_cons_self)
        · exact (ih htail).imp_right (List.mem_cons_of_mem _)

theorem ascending_insertEntry (key : String) (value : Int64) {entries : List (String × Int64)}
    (hascending : entries.Pairwise fun earlier later => earlier.1 < later.1) :
    (insertEntry key value entries).Pairwise fun earlier later => earlier.1 < later.1 := by
  induction entries with
  | nil => exact List.pairwise_singleton _ _
  | cons first rest ih =>
    have ⟨hafter, hrest⟩ := List.pairwise_cons.mp hascending
    unfold insertEntry
    split
    · next hbelow =>
      refine List.pairwise_cons.mpr ⟨fun entry hmember => ?_, hascending⟩
      rcases List.mem_cons.mp hmember with hhead | htail
      · exact hhead ▸ hbelow
      · exact String.lt_trans hbelow (hafter entry htail)
    · next hnotBelow =>
      split
      · next hsame =>
        exact List.pairwise_cons.mpr
          ⟨fun entry hmember => hsame ▸ hafter entry hmember, hrest⟩
      · next hdiffers =>
        refine List.pairwise_cons.mpr ⟨fun entry hmember => ?_, ih hrest⟩
        rcases mem_insertEntry hmember with hnew | hold
        · have hfirst : first.1 ≠ key := fun hsame => hdiffers hsame.symm
          have habove : first.1 < key := by
            by_cases hless : first.1 < key
            · exact hless
            · exact absurd
                (String.le_antisymm (String.not_lt.mp hnotBelow) (String.not_lt.mp hless)) hfirst
          exact hnew ▸ habove
        · exact hafter entry hold

/-- Set the value of a key. -/
def insert (preferences : Preferences) (key : String) (value : Int64) : Preferences :=
  ⟨insertEntry key value preferences.entries,
    ascending_insertEntry key value preferences.ascending⟩

/-- The value of a key, if one was saved. -/
def get? (preferences : Preferences) (key : String) : Option Int64 :=
  preferences.entries.lookup key

/-- The preferences with the given values; a later value of a key replaces an earlier one. -/
def ofList (entries : List (String × Int64)) : Preferences :=
  entries.foldl (fun preferences entry => preferences.insert entry.1 entry.2) empty

/-- How many keys have a value. -/
def size (preferences : Preferences) : Nat :=
  preferences.entries.length

/-! ## The view through look-up -/

@[simp] theorem lookup_insertEntry (key other : String) (value : Int64)
    (entries : List (String × Int64)) :
    (insertEntry key value entries).lookup other =
      if other = key then some value else entries.lookup other := by
  induction entries with
  | nil => rw [insertEntry, Association.lookup_cons_eq_ite]
  | cons entry rest ih =>
    obtain ⟨known, old⟩ := entry
    rw [insertEntry]
    split
    · rw [Association.lookup_cons_eq_ite]
    split
    · rw [Association.lookup_cons_eq_ite, Association.lookup_cons_eq_ite]
      grind
    · rw [Association.lookup_cons_eq_ite, Association.lookup_cons_eq_ite, ih]
      grind

@[simp] theorem get?_insert (preferences : Preferences) (key other : String) (value : Int64) :
    (preferences.insert key value).get? other =
      if other = key then some value else preferences.get? other :=
  lookup_insertEntry key other value preferences.entries

end Preferences

end KernelControls
