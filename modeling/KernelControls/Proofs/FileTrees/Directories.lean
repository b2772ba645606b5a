import KernelControls.Proofs.FileTrees.Files

/-!
# Directories made for a file

Before a file is put in place the directories above it are made, and they stay even if nothing
comes of the file.  No path without a `..` leads to another file because of them.  A path with
one may: `missing/../file` leads nowhere until `missing` is made.

## Strategy

A tree is rooted if whatever stands in it stands in a directory, so nothing waits below a place
that is free.  A walk without a `..` only goes down, and a walk that reaches a file has not come
through a new directory, because nothing is in there.  So the same walk reached the same file
before (`walk_of_set`), and `walk_set` is the way back.  One new directory at a time, this carries
over to `makeDirectories`.
-/

namespace KernelControls

namespace FileTree

variable {tree : FileTree} {location next place : Location} {entry : Entry}

/-! ## Rooted trees -/

/-- Whatever stands somewhere stands in a directory. -/
def Rooted (tree : FileTree) : Prop :=
  ∀ parent name, (tree.entryAt? (parent ++ [name])).isSome = true →
    tree.entryAt? parent = some .directory

theorem rooted_of_entries
    (hentries : ∀ known ∈ tree.entries, tree.entryAt? known.1.dropLast = some .directory) :
    tree.Rooted := by
  intro parent name hpresent
  have hroot : parent ++ [name] ≠ [] := List.concat_ne_nil _ _
  unfold entryAt? at hpresent
  rw [if_neg hroot] at hpresent
  obtain ⟨entry, hlookup⟩ := Option.isSome_iff_exists.mp hpresent
  obtain ⟨before, after, hsplit, -⟩ := List.lookup_eq_some_iff.mp hlookup
  have hmem : (parent ++ [name], entry) ∈ tree.entries := by
    rw [hsplit]
    exact List.mem_append_right before List.mem_cons_self
  have hdirectory := hentries _ hmem
  rwa [List.dropLast_concat] at hdirectory

/-- Everything above something is a directory. -/
theorem Rooted.directory_above (hrooted : tree.Rooted) {below : Location} (hbelow : below ≠ [])
    (hpresent : (tree.entryAt? (location ++ below)).isSome = true) :
    tree.entryAt? location = some .directory := by
  induction below generalizing location with
  | nil => exact absurd rfl hbelow
  | cons name rest ih =>
      apply hrooted location name
      by_cases hlast : rest = []
      · rwa [hlast] at hpresent
      · rw [List.append_cons] at hpresent
        rw [ih hlast hpresent]
        rfl

/-- A tree stays rooted where something comes to stand in a directory and takes the place of
none. -/
theorem Rooted.set (hrooted : tree.Rooted) {parent : Location} {name : String}
    (hparent : tree.entryAt? parent = some .directory)
    (hplace : tree.entryAt? (parent ++ [name]) ≠ some .directory) :
    (tree.set (parent ++ [name]) entry).Rooted := by
  have hroot : parent ++ [name] ≠ [] := List.concat_ne_nil _ _
  intro above last hpresent
  rw [entryAt?_set _ _ _ _ hroot] at hpresent ⊢
  have habove : tree.entryAt? above = some .directory := by
    split at hpresent
    · next hsame => rwa [(List.append_inj' hsame rfl).1]
    · exact hrooted above last hpresent
  have hother : above ≠ parent ++ [name] := fun hsame => hplace (hsame ▸ habove)
  rwa [if_neg hother]

/-! ## Walks that go down -/

theorem prefix_of_enter {piece : String} (hdown : piece ≠ "..")
    (henter : tree.enter location piece = .ok next) : location <+: next := by
  by_cases hhere : piece = "" ∨ piece = "."
  · have hstays : tree.enter location piece = .ok location := by
      unfold enter
      rw [directory_of_enter henter]
      rcases hhere with rfl | rfl <;> rfl
    rw [hstays] at henter
    exact Except.ok.inj henter ▸ List.prefix_refl location
  · obtain ⟨hempty, hdot⟩ := not_or.mp hhere
    exact enter_name ⟨hempty, hdot, hdown⟩ henter ▸ List.prefix_append location [piece]

theorem prefix_of_walk {pieces : List String} (hdown : ".." ∉ pieces)
    (hwalk : tree.walk location pieces = .ok next) : location <+: next := by
  induction pieces generalizing location with
  | nil => exact Except.ok.inj hwalk ▸ List.prefix_refl location
  | cons piece rest ih =>
      obtain ⟨hpiece, hrest⟩ := List.ne_and_not_mem_of_not_mem_cons hdown
      obtain ⟨middle, henter, hlater⟩ := walk_cons_eq_ok.mp hwalk
      exact (prefix_of_enter hpiece.symm henter).trans (ih hrest hlater)

/-- A walk down that ends outside a changed place was possible before the change. -/
theorem walk_of_set {pieces : List String} (hroot : place ≠ []) (hdown : ".." ∉ pieces)
    (houtside : ¬ place <+: next) (hwalk : (tree.set place entry).walk location pieces = .ok next) :
    tree.walk location pieces = .ok next := by
  induction pieces generalizing location with
  | nil => exact hwalk
  | cons piece rest ih =>
      obtain ⟨hpiece, hrest⟩ := List.ne_and_not_mem_of_not_mem_cons hdown
      obtain ⟨middle, henter, hlater⟩ := walk_cons_eq_ok.mp hwalk
      have hother : location ≠ place := fun hsame => houtside
        (hsame ▸ (prefix_of_enter hpiece.symm henter).trans (prefix_of_walk hrest hlater))
      rw [enter_set_of_ne hroot hother] at henter
      exact walk_cons_eq_ok.mpr ⟨middle, henter, ih hrest hlater⟩

/-! ## The files that paths lead to -/

theorem find_eq_ok {path : String} : tree.find path = .ok (location, entry) ↔
    ∃ first, tree.start path = .ok first ∧ tree.walk first (Path.pieces path) = .ok location ∧
      tree.entryAt? location = some entry := by
  unfold find
  constructor
  · intro hfind
    cases hstart : tree.start path with
    | error cause => rw [hstart] at hfind; cases hfind
    | ok first =>
        rw [hstart] at hfind
        dsimp only [Bind.bind, Except.bind] at hfind
        split at hfind
        · cases hfind
        next reached hwalk =>
        split at hfind
        · next found hfound =>
            obtain ⟨rfl, rfl⟩ := Prod.mk.inj (Except.ok.inj hfind)
            exact ⟨first, rfl, hwalk, hfound⟩
        · cases hfind
  · rintro ⟨first, hstart, hwalk, hentry⟩
    rw [hstart]
    dsimp only [Bind.bind, Except.bind]
    rw [hwalk]
    dsimp only
    rw [hentry]
    rfl

theorem read_eq_ok {path : String} {content : ByteArray} : tree.read path = .ok content ↔
    ∃ location, tree.find path = .ok (location, .file content) := by
  unfold read
  constructor
  · intro hread
    rcases hfind : tree.find path with cause | ⟨location, found | _⟩
    · rw [hfind] at hread; cases hread
    · rw [hfind] at hread
      obtain rfl : found = content := Except.ok.inj hread
      exact ⟨location, rfl⟩
    · rw [hfind] at hread; cases hread
  · rintro ⟨location, hfind⟩
    rw [hfind]
    rfl

/-- Nothing is in a new directory, so no path without a `..` leads to another file because of
it. -/
theorem read_set_directory {path : String} {content : ByteArray} (hrooted : tree.Rooted)
    (hroot : place ≠ []) (hfree : tree.entryAt? place = none) (hdown : ".." ∉ Path.pieces path) :
    (tree.set place .directory).read path = .ok content ↔ tree.read path = .ok content := by
  simp only [read_eq_ok, find_eq_ok, entryAt?_set tree place _ _ hroot]
  constructor
  · rintro ⟨location, first, hstart, hwalk, hentry⟩
    split at hentry
    · cases hentry
    next hother =>
    have houtside : ¬ place <+: location := by
      rintro ⟨below, rfl⟩
      have hbelow : below ≠ [] := fun hnone => hother (by rw [hnone, List.append_nil])
      have hpresent := hrooted.directory_above hbelow (by rw [hentry]; rfl)
      rw [hfree] at hpresent
      cases hpresent
    exact ⟨location, first, hstart, walk_of_set hroot hdown houtside hwalk, hentry⟩
  · rintro ⟨location, first, hstart, hwalk, hentry⟩
    have hother : location ≠ place := fun hsame => by
      rw [hsame, hfree] at hentry
      cases hentry
    exact ⟨location, first, hstart, walk_set hroot (by rw [hfree]; exact nofun) hwalk,
      by rwa [if_neg hother]⟩

/-! ## Making directories -/

/-- A tree in which directories may be new, and no path without a `..` leads to another file. -/
structure Widened (before after : FileTree) : Prop where
  rooted : after.Rooted
  read : ∀ path content, ".." ∉ Path.pieces path →
    (after.read path = .ok content ↔ before.read path = .ok content)

theorem Widened.refl (hrooted : tree.Rooted) : tree.Widened tree :=
  ⟨hrooted, fun _ _ _ => Iff.rfl⟩

theorem Widened.trans {before middle after : FileTree} (first : before.Widened middle)
    (second : middle.Widened after) : before.Widened after :=
  ⟨second.rooted, fun path content hdown =>
    (second.read path content hdown).trans (first.read path content hdown)⟩

theorem widened_makeDirectory {made : FileTree} {path : String} (hrooted : tree.Rooted)
    (hmade : tree.makeDirectory path = .ok made) : tree.Widened made := by
  obtain ⟨place, slash, htarget, hfree, rfl⟩ := makeDirectory_eq_ok hmade
  have hroot := ne_nil_of_target htarget
  obtain ⟨parent, name, hparent, rfl⟩ := directory_of_target htarget
  exact ⟨hrooted.set hparent (by rw [hfree]; exact nofun),
    fun path content hdown => read_set_directory hrooted hroot hfree hdown⟩

/-- What every single directory on a path keeps is kept when they are made, also where this fails
on the way. -/
theorem makeDirectories_keeps {holds : FileTree → Prop} {components whole : List Path.Component}
    (hbegins : components.reverse <+: whole)
    (hstep : ∀ {first : List Path.Component} {before made : FileTree}, first ≠ [] →
      first <+: whole → holds before →
      before.makeDirectory (Path.ofComponents first) = .ok made → holds made)
    (hholds : holds tree) : holds (tree.makeDirectories components).2 := by
  induction components with
  | nil => exact hholds
  | cons last before ih =>
      have hbefore : before.reverse <+: whole := by
        refine List.IsPrefix.trans ?_ hbegins
        rw [List.reverse_cons]
        exact List.prefix_append _ _
      have hsome : (last :: before).reverse ≠ [] := by simp
      unfold makeDirectories
      dsimp only
      split
      · next made hmade => exact hstep hsome hbegins hholds hmade
      · -- The directories above come first, and they stay whatever comes of the last one.
        have habove := ih hbefore
        split
        · next cause made hmade => rwa [hmade] at habove
        · next made hmade =>
            rw [hmade] at habove
            split
            · next complete hcomplete => exact hstep hsome hbegins habove hcomplete
            · split <;> exact habove
      · split <;> exact hholds

/-- Making directories only adds some. -/
theorem widened_makeDirectories (hrooted : tree.Rooted) (components : List Path.Component) :
    tree.Widened (tree.makeDirectories components).2 :=
  makeDirectories_keeps List.prefix_rfl
    (fun _ _ widened hmade => widened.trans (widened_makeDirectory widened.rooted hmade))
    (.refl hrooted)

/-! ## Putting a file in place -/

theorem Rooted.replace {changed : FileTree} {path : String} {content : ByteArray}
    (hrooted : tree.Rooted) (hreplace : tree.replace path content = .ok changed) :
    changed.Rooted := by
  obtain ⟨place, htarget, hplace, rfl⟩ := replace_eq_ok hreplace
  obtain ⟨parent, name, hparent, rfl⟩ := directory_of_target htarget
  exact hrooted.set hparent hplace

/-- A file is put in place as a whole, or nothing changes. -/
theorem replaceFrom_cases (tree : FileTree) (directory path text : String) :
    (∃ error, tree.replaceFrom directory path text = (.error error, tree)) ∨
    ∃ changed, tree.replace path text.toUTF8 = .ok changed ∧
      tree.replaceFrom directory path text = (.ok (), changed) := by
  unfold replaceFrom
  split
  · exact .inl ⟨_, rfl⟩
  · exact .inl ⟨_, rfl⟩
  · split
    · exact .inl ⟨_, rfl⟩
    · split
      · next changed hreplace => exact .inr ⟨changed, hreplace, rfl⟩
      · exact .inl ⟨_, rfl⟩

end FileTree

end KernelControls
