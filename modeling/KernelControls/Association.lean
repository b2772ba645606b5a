/-!
# Association lists

Small finite maps keep the order in which their keys first appeared: the fields of a
document, the open sessions of an engine.  `put` replaces a value in its place or
appends it, `drop` removes a key, and `List.lookup` is the view through which both are
understood.
-/

namespace KernelControls.Association

variable {Key Value : Type} [DecidableEq Key]

/-- Set the value of a key: in its place if the key is there, else at the end. -/
def put (key : Key) (value : Value) : List (Key × Value) → List (Key × Value)
  | [] => [(key, value)]
  | (known, old) :: rest =>
    if known = key then (key, value) :: rest else (known, old) :: put key value rest

/-- Remove a key. -/
def drop (key : Key) (entries : List (Key × Value)) : List (Key × Value) :=
  entries.filter fun entry => entry.1 ≠ key

/-! ## The view through look-up -/

variable [BEq Key] [LawfulBEq Key]

theorem lookup_cons_eq_ite (known other : Key) (value : Value) (entries : List (Key × Value)) :
    ((known, value) :: entries).lookup other =
      if other = known then some value else entries.lookup other := by
  by_cases hsame : other = known
  · simp [hsame]
  · have hdiffers : (other == known) = false := by simpa using hsame
    simp [List.lookup_cons, hdiffers, hsame]

@[simp] theorem lookup_put (key other : Key) (value : Value) (entries : List (Key × Value)) :
    (put key value entries).lookup other =
      if other = key then some value else entries.lookup other := by
  induction entries with
  | nil => rw [put, lookup_cons_eq_ite]
  | cons entry rest ih =>
    obtain ⟨known, old⟩ := entry
    by_cases hhere : known = key
    · rw [put, if_pos hhere, lookup_cons_eq_ite, lookup_cons_eq_ite]
      grind
    · rw [put, if_neg hhere, lookup_cons_eq_ite, lookup_cons_eq_ite, ih]
      grind

@[simp] theorem lookup_drop (key other : Key) (entries : List (Key × Value)) :
    (drop key entries).lookup other = if other = key then none else entries.lookup other := by
  induction entries with
  | nil => simp [drop]
  | cons entry rest ih =>
    obtain ⟨known, old⟩ := entry
    unfold drop at ih ⊢
    by_cases hhere : known = key
    · rw [List.filter_cons_of_neg (by simpa using hhere), ih, lookup_cons_eq_ite]
      grind
    · rw [List.filter_cons_of_pos (by simpa using hhere), lookup_cons_eq_ite,
        lookup_cons_eq_ite, ih]
      grind

end KernelControls.Association
