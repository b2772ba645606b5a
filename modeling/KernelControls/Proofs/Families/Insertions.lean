import KernelControls.Catalog.Load
import KernelControls.Proofs.Families.Catalogs
import KernelControls.Proofs.Engine.Operations
import KernelControls.Proofs.Families.Validation

/-!
# What insertions leave

Families are offered to a catalog one after the other, and those with a fault are refused.  The
catalog that comes out depends on the accepted ones alone: its ids are those of the first catalog
and then the new ones in the order in which they first came, and under an id stands the family that
was accepted last.

## Strategy

`Catalog.place` is known by what it does to the ids and to look-up.  Both are carried along a list
of families, each from the same case: the first family brings a new id or it replaces one.  Loading
is a list of insertions none of which is refused, so what holds of insertions holds of every catalog
that was loaded.
-/

namespace KernelControls

namespace Catalog

/-! ## Offering families -/

/-- The catalog after a family was offered to it: a family with a fault leaves it as it was. -/
def offer (catalog : Catalog) (family : Family) : Catalog :=
  (catalog.insert family).toOption.getD catalog

/-- The catalog after families were offered to it, one after the other. -/
def offerAll (catalog : Catalog) (families : List Family) : Catalog :=
  families.foldl offer catalog

/-- The families that are accepted when they are offered one after the other. -/
def accepted (catalog : Catalog) : List Family → List Family
  | [] => []
  | family :: rest =>
    match catalog.insert family with
    | .ok extended => family :: extended.accepted rest
    | .error _ => catalog.accepted rest

/-- What becomes of a catalog when well-formed families are inserted into it, one after the other:
the first of an id adds the id, and the last of an id is found under it. -/
structure Extends (catalog : Catalog) (families : List Family) (extended : Catalog) : Prop where
  nodup : extended.ids.Nodup
  wellFormed : ∀ family ∈ extended.families, family.WellFormed
  ids : extended.ids =
    catalog.ids ++ ((families.map Family.id).filter (· ∉ catalog.ids)).eraseDups
  get? : ∀ id, extended.get? id =
    match (families.filter fun family => family.id = id).getLast? with
    | some family => some family
    | none => catalog.get? id

variable {catalog extended : Catalog} {family : Family} {families : List Family}

theorem insert_eq_ok_iff : catalog.insert family = .ok extended ↔
    family.WellFormed ∧ extended = ⟨place family catalog.families⟩ := by
  rw [← family.fault?_eq_none_iff]
  refine ⟨insert_eq_ok, ?_⟩
  rintro ⟨hnone, rfl⟩
  unfold insert Family.validate
  rw [hnone]
  rfl

/-- Whether a family is accepted depends on the family alone, and what is refused leaves no
trace. -/
theorem foldlM_accepted (catalog : Catalog) (families : List Family) :
    (catalog.accepted families).foldlM insert catalog = .ok (catalog.offerAll families) ∧
      catalog.accepted families = families.filter fun family => family.WellFormed := by
  induction families generalizing catalog with
  | nil => exact ⟨rfl, rfl⟩
  | cons first rest ih =>
      have hoffer : catalog.offerAll (first :: rest) = (catalog.offer first).offerAll rest := rfl
      unfold offer at hoffer
      rw [hoffer, accepted]
      cases hinsert : catalog.insert first with
      | error invalid =>
          have hfault : ¬first.WellFormed := fun h => by
            rw [insert_eq_ok_iff.mpr ⟨h, rfl⟩] at hinsert
            cases hinsert
          -- The others are offered to the same catalog, as if the first had never come.
          rw [List.filter_cons_of_neg (by simpa using hfault)]
          exact ih catalog
      | ok next =>
          have hwell : first.WellFormed := (insert_eq_ok_iff.mp hinsert).1
          rw [List.filter_cons_of_pos (by simpa using hwell), List.foldlM_cons, hinsert]
          exact ⟨(ih next).1, congrArg (first :: ·) (ih next).2⟩

/-! ## What placing one family after the other does -/

/-- New ids come after the known ones, in the order in which they are first placed. -/
theorem ids_foldl_place (families known : List Family) :
    (families.foldl (fun known family => place family known) known).map Family.id =
      known.map Family.id ++
        ((families.map Family.id).filter (· ∉ known.map Family.id)).eraseDups := by
  induction families generalizing known with
  | nil => simp
  | cons family rest ih =>
      rw [List.foldl_cons, ih, ids_place, List.map_cons]
      by_cases hknown : family.id ∈ known.map Family.id
      · rw [if_pos hknown, List.filter_cons_of_neg (by simpa using hknown)]
      · -- The later families of this id bring nothing new.
        have hlater : ∀ id, decide (id ∉ known.map Family.id ++ [family.id]) =
            (!(id == family.id) && decide (id ∉ known.map Family.id)) := by
          intro id
          by_cases hsame : id = family.id <;> simp [hsame]
        rw [if_neg hknown, List.filter_cons_of_pos (by simpa using hknown), List.eraseDups_cons,
          List.filter_filter, List.append_assoc, List.singleton_append]
        simp only [hlater]

/-- Under an id stands the family that was placed last. -/
theorem find?_foldl_place (families known : List Family) (id : String) :
    (families.foldl (fun known family => place family known) known).find?
        (fun family => family.id = id) =
      match (families.filter fun family => family.id = id).getLast? with
      | some family => some family
      | none => known.find? fun family => family.id = id := by
  induction families generalizing known with
  | nil => rfl
  | cons family rest ih =>
      rw [List.foldl_cons, ih, find?_place, List.filter_cons]
      by_cases hsame : family.id = id
      · rw [if_pos hsame, if_pos (decide_eq_true hsame), List.getLast?_cons]
        cases (rest.filter fun later => later.id = id).getLast? <;> rfl
      · rw [if_neg hsame, if_neg (by simpa using hsame)]

theorem families_of_inserts (hinserts : families.foldlM insert catalog = .ok extended) :
    extended.families =
      families.foldl (fun known family => place family known) catalog.families := by
  induction families generalizing catalog with
  | nil =>
      obtain rfl : catalog = extended := Except.ok.inj hinserts
      rfl
  | cons family rest ih =>
      rw [List.foldlM_cons] at hinserts
      cases hfirst : catalog.insert family with
      | error invalid =>
          rw [hfirst] at hinserts
          cases hinserts
      | ok next =>
          rw [hfirst] at hinserts
          obtain ⟨-, rfl⟩ := insert_eq_ok_iff.mp hfirst
          exact ih hinserts

theorem Sound.extends (sound : catalog.Sound)
    (hinserts : families.foldlM Catalog.insert catalog = .ok extended) :
    catalog.Extends families extended where
  nodup := (sound.inserts hinserts).ids
  wellFormed family hfamily :=
    family.fault?_eq_none_iff.mp ((sound.inserts hinserts).faultless family hfamily)
  ids := by
    unfold Catalog.ids
    rw [families_of_inserts hinserts]
    exact ids_foldl_place families catalog.families
  get? id := by
    unfold Catalog.get?
    rw [families_of_inserts hinserts]
    exact find?_foldl_place families catalog.families id

/-! ## Loading inserts -/

section Load

variable {World : Type} [FileSystem (StateM World)]

/-- The first definition file was read and its family accepted, and then came the others. -/
theorem insertDefinitions_cons {path : String} {rest : List String} {world : World}
    (hloaded : (perform (catalog.insertDefinitions (path :: rest)) world).1.2 = .ok extended) :
    let read := perform (readDefinition path) world
    ∃ family next, read.1 = .ok family ∧ catalog.insert family = .ok next ∧
      (perform (next.insertDefinitions rest) read.2).1.2 = .ok extended := by
  unfold insertDefinitions at hloaded
  rw [perform_bind] at hloaded
  cases hread : (perform (readDefinition path) world).1 with
  | error error => rw [hread] at hloaded; cases hloaded
  | ok family =>
      rw [hread] at hloaded
      dsimp only at hloaded
      cases hinsert : catalog.insert family with
      | error invalid => rw [hinsert] at hloaded; cases hloaded
      | ok next =>
          rw [hinsert] at hloaded
          exact ⟨family, next, hread, hinsert, hloaded⟩

/-- Without a directory of definitions the built-in catalog is loaded; otherwise the directory was
listed and the definition files in it were inserted. -/
theorem load_cases {directory : String} {world : World}
    (hloaded : (perform (load directory) world).1.2 = .ok extended) :
    let present := perform (FileSystem.isPresent directory) world
    let listed := perform (FileSystem.list directory) present.2
    (present.1 = false ∧ extended = builtin) ∨
    ∃ names, listed.1 = .ok names ∧ (perform (builtin.insertDefinitions
      ((definitionNames names).map (Path.join directory))) listed.2).1.2 = .ok extended := by
  unfold load at hloaded
  rw [perform_bind] at hloaded
  cases hpresent : (perform (FileSystem.isPresent directory) world).1 with
  | false =>
      rw [hpresent] at hloaded
      exact .inl ⟨hpresent, (Except.ok.inj hloaded).symm⟩
  | true =>
      rw [hpresent, if_pos rfl, perform_bind] at hloaded
      cases hlist : (perform (FileSystem.list directory)
        (perform (FileSystem.isPresent directory) world).2).1 with
      | error cause => rw [hlist] at hloaded; cases hloaded
      | ok names =>
          rw [hlist] at hloaded
          exact .inr ⟨names, hlist, hloaded⟩

theorem exists_of_insertDefinitions {paths : List String} {world : World}
    (hloaded : (perform (catalog.insertDefinitions paths) world).1.2 = .ok extended) :
    ∃ families : List Family, families.foldlM insert catalog = .ok extended := by
  induction paths generalizing catalog world with
  | nil =>
      obtain rfl : catalog = extended := Except.ok.inj hloaded
      exact ⟨[], rfl⟩
  | cons path rest ih =>
      obtain ⟨family, next, -, hinsert, hrest⟩ := insertDefinitions_cons hloaded
      obtain ⟨families, hinserts⟩ := ih hrest
      refine ⟨family :: families, ?_⟩
      rw [List.foldlM_cons, hinsert]
      exact hinserts

theorem exists_of_load {directory : String} {world : World}
    (hloaded : (perform (load directory) world).1.2 = .ok extended) :
    ∃ families : List Family, families.foldlM insert builtin = .ok extended := by
  rcases load_cases hloaded with ⟨-, rfl⟩ | ⟨names, -, hinserted⟩
  · exact ⟨[], rfl⟩
  · exact exists_of_insertDefinitions hinserted

/-- **The catalog after any insertions.**  Offer any families, with or without faults, to the
built-in catalog.  The well-formed ones are accepted.  The ids of the catalog that comes out are
different, and all its families are well formed; after the built-in ids stand the other accepted
ones in the order in which they first came, and under an id stands the family that was accepted
last, or else the built-in one.  What was refused left no trace: the accepted families alone give
the same catalog, and another refused one leaves it as it is.  Every catalog that was loaded came
about in this way. -/
theorem built_by_insertions :
    (∀ families : List Family,
      let offered := builtin.offerAll families
      (builtin.accepted families = families.filter fun family => family.WellFormed) ∧
      builtin.Extends (builtin.accepted families) offered ∧
      (builtin.accepted families).foldlM insert builtin = .ok offered ∧
      ∀ family invalid, offered.insert family = .error invalid → offered.offer family = offered) ∧
    ∀ (directory : String) (world : World) (loaded : Catalog),
      (perform (load directory) world).1.2 = .ok loaded →
      ∃ families : List Family, families.foldlM insert builtin = .ok loaded ∧
        builtin.Extends families loaded := by
  refine ⟨fun families => ?_, fun directory world loaded hloaded => ?_⟩
  · obtain ⟨hinserts, haccepted⟩ := builtin.foldlM_accepted families
    refine ⟨haccepted, sound_builtin.extends hinserts, hinserts, fun family invalid hrefused => ?_⟩
    unfold offer
    rw [hrefused]
    rfl
  · obtain ⟨families, hinserts⟩ := exists_of_load hloaded
    exact ⟨families, hinserts, sound_builtin.extends hinserts⟩

end Load

example : builtin.ids =
    ["color_tuning", "mdnie", "volume_boost", "dock_audio", "touchkey_backlight", "vibration"] := by
  decide

end Catalog

end KernelControls
