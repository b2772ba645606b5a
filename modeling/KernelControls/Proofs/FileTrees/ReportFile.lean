import KernelControls.BootRun
import KernelControls.Proofs.FileTrees.TreeNodes

/-!
# Writing a report

A report is written with the directories above it.  Directories come to stand where nothing was, on
the way along the report's path, and a file at its end, unless it is refused there.  Nothing else
changes, and what the files of the tree hold has no part in it.

## Strategy

Each directory is made at the end of a beginning of the path, so the changes add up (`Sprouted`).
The report is then put in its place by a single write.  Both depend on the shape of the tree alone.
-/

namespace KernelControls

/-! ## Directories along a path -/

namespace FileTree

variable {tree before middle after changed : FileTree} {place : Location} {entry entry' : Entry}
  {path : String} {components : List Path.Component}

/-- Where no directory is lost, a path leads to the same place, and to what stands there now. -/
theorem find_of_directories (hworking : after.workingDirectory = before.workingDirectory)
    (hkept : ∀ place, before.entryAt? place = some .directory →
      after.entryAt? place = some .directory)
    (hfind : before.find path = .ok (place, entry)) (hentry : after.entryAt? place = some entry') :
    after.find path = .ok (place, entry') := by
  obtain ⟨first, hstart, hwalk, -⟩ := find_eq_ok.mp hfind
  refine find_eq_ok.mpr ⟨first, ?_, walk_of_directories hkept hwalk, hentry⟩
  unfold start
  rw [hworking]
  exact hstart

/-- A tree in which directories came to stand where nothing was, on the way along some components,
and nothing else changed. -/
structure Sprouted (components : List Path.Component) (before after : FileTree) : Prop where
  workingDirectory : after.workingDirectory = before.workingDirectory
  entries : ∀ place, after.entryAt? place = before.entryAt? place ∨
    before.entryAt? place = none ∧ after.entryAt? place = some .directory ∧
      ∃ first, first <+: components ∧ place = Path.follow before.workingDirectory first

namespace Sprouted

theorem refl (components : List Path.Component) (tree : FileTree) :
    Sprouted components tree tree :=
  ⟨rfl, fun _ => .inl rfl⟩

theorem trans (first : Sprouted components before middle)
    (second : Sprouted components middle after) : Sprouted components before after where
  workingDirectory := second.workingDirectory.trans first.workingDirectory
  entries place := by
    have hworking := first.workingDirectory
    rcases second.entries place with hsame | ⟨hfree, hnew, hpath⟩
    · rw [hsame]
      exact first.entries place
    · rcases first.entries place with hbefore | ⟨-, hmade, -⟩
      · exact .inr ⟨hbefore ▸ hfree, hnew, hworking ▸ hpath⟩
      · rw [hmade] at hfree
        cases hfree

theorem directory (sprouted : Sprouted components before after) (place : Location)
    (hdirectory : before.entryAt? place = some .directory) :
    after.entryAt? place = some .directory := by
  rcases sprouted.entries place with hsame | ⟨hfree, -⟩
  · rw [hsame, hdirectory]
  · rw [hfree] at hdirectory
    cases hdirectory

theorem makeDirectory (hpath : Path.components path <+: components)
    (hmade : tree.makeDirectory path = .ok changed) : Sprouted components tree changed := by
  obtain ⟨place, slash, htarget, hfree, rfl⟩ := makeDirectory_eq_ok hmade
  refine ⟨rfl, fun found => ?_⟩
  rw [entryAt?_set _ _ _ _ (ne_nil_of_target htarget)]
  split
  · next hhere =>
      exact .inr ⟨hhere ▸ hfree, rfl, _, hpath, hhere.trans (place_of_target htarget)⟩
  · exact .inl rfl

theorem makeDirectories (tree : FileTree) (path : String) : Sprouted (Path.components path) tree
    (tree.makeDirectories (Path.components path).reverse).2 := by
  have hbegins : (Path.components path).reverse.reverse <+: Path.components path := by simp
  refine makeDirectories_keeps hbegins (fun hsome hfirst sprouted hmade => ?_) (refl _ tree)
  refine sprouted.trans (makeDirectory ?_ hmade)
  rwa [Path.components_ofComponents hfirst hsome]

end Sprouted

end FileTree

/-! ## Writing -/

theorem RestoreReport.pretty_ne_empty (report : RestoreReport) : report.toForm.pretty ≠ "" := by
  intro hempty
  have hnone := congrArg String.toList hempty
  unfold toForm Json.pretty Json.indented at hnone
  simp at hnone

namespace BootRun

/-- The directories above the report, made as far as they can be made. -/
def makeAbove (path : String) (tree : FileTree) : Except OsError Unit × FileTree :=
  match Path.parent? path with
  | some parent => tree.makeDirectories (Path.components parent).reverse
  | none => (.ok (), tree)

variable {path : String} {tree other : FileTree}

theorem sprouted_makeAbove (path : String) (tree : FileTree) :
    FileTree.Sprouted (Path.components path).dropLast tree (makeAbove path tree).2 := by
  unfold makeAbove
  cases hparent : Path.parent? path with
  | none => exact .refl _ _
  | some parent =>
      have hcomponents : Path.components parent = (Path.components path).dropLast := by
        unfold Path.parent? at hparent
        split at hparent
        · cases hparent
        · cases hparent
        · obtain rfl := Option.some.inj hparent
          by_cases hsome : (Path.components path).dropLast = []
          · rw [hsome]
            rfl
          · exact Path.components_ofComponents (List.dropLast_prefix _) hsome
      rw [← hcomponents]
      exact .makeDirectories tree parent

/-- The report is refused with its directories, or it is written or refused beside them. -/
theorem writeReport_run (path : String) (tree : FileTree) (report : RestoreReport) :
    perform (writeReport path report) tree =
    match (makeAbove path tree).1 with
    | .error cause => (some cause.message, (makeAbove path tree).2)
    | .ok () =>
      match (makeAbove path tree).2.write path report.toForm.pretty.toUTF8 with
      | .ok changed => (none, changed)
      | .error cause =>
        (some ("Failed to write " ++ path ++ ": " ++ cause.message), (makeAbove path tree).2) := by
  have hwrite : ∀ made : FileTree, perform (FileSystem.write path report.toForm.pretty) made =
      made.settle (made.write path report.toForm.pretty.toUTF8) := fun _ => rfl
  unfold writeReport makeAbove
  cases Path.parent? path with
  | none =>
      dsimp only
      rw [perform_bind]
      show perform (FileSystem.write path report.toForm.pretty >>= _) tree = _
      rw [perform_bind, hwrite]
      cases tree.write path report.toForm.pretty.toUTF8 <;> rfl
  | some parent =>
      have hmade : perform (FileSystem.makeDirectories parent) tree =
          tree.makeDirectories (Path.components parent).reverse := rfl
      dsimp only
      rw [perform_bind, hmade]
      cases (tree.makeDirectories (Path.components parent).reverse).1 with
      | error cause => rfl
      | ok done =>
          dsimp only
          rw [perform_bind, hwrite]
          cases FileTree.write _ path report.toForm.pretty.toUTF8 <;> rfl

/-- A report is written if the directories above it can be made, and if its place does not refuse
it then. -/
theorem writeReport_eq_none {report : RestoreReport} (hmade : (makeAbove path tree).1 = .ok ())
    (haccepts : (makeAbove path tree).2.writeRefusal? path = none) :
    (perform (writeReport path report) tree).1 = none := by
  have hwrite := (makeAbove path tree).2.write_of_refusal path report.toForm.pretty.toUTF8
  rw [haccepts] at hwrite
  obtain ⟨changed, hchanged⟩ := hwrite
  rw [writeReport_run, hmade]
  dsimp only
  rw [hchanged]

/-- Whether a report is refused depends on the shape of the tree alone. -/
theorem writeReport_sameShape (path : String) (same : tree.SameShape other)
    (report report' : RestoreReport) :
    (perform (writeReport path report') other).1 = (perform (writeReport path report) tree).1 := by
  have habove : (makeAbove path other).1 = (makeAbove path tree).1 ∧
      (makeAbove path tree).2.SameShape (makeAbove path other).2 := by
    unfold makeAbove
    cases Path.parent? path with
    | none => exact ⟨rfl, same⟩
    | some parent => exact same.makeDirectories _
  -- The write follows in trees of one shape, and its text has no part in what becomes of it.
  have halike := habove.2.write path report.toForm.pretty.toUTF8 report'.toForm.pretty.toUTF8
  rw [writeReport_run, writeReport_run, habove.1]
  cases (makeAbove path tree).1 with
  | error cause => rfl
  | ok done =>
      dsimp only
      generalize (makeAbove path tree).2.write path report.toForm.pretty.toUTF8 = first,
        (makeAbove path other).2.write path report'.toForm.pretty.toUTF8 = second at halike ⊢
      cases halike with
      | refused cause => rfl
      | changed changed => rfl

/-- What writing a report does: it makes directories along its path, and puts a file at its end
unless it is refused. -/
structure Reported (path : String) (report : RestoreReport) (before after : FileTree) : Prop where
  workingDirectory : after.workingDirectory = before.workingDirectory
  directories : ∀ place, before.entryAt? place = some .directory →
    after.entryAt? place = some .directory
  entries : ∀ place, after.entryAt? place = before.entryAt? place ∨
    (before.entryAt? place = none ∧ after.entryAt? place = some .directory ∧
      ∃ first, first <+: (Path.components path).dropLast ∧
        place = Path.follow before.workingDirectory first) ∨
    (place = before.lead path ∧ (perform (writeReport path report) before).1 = none)
  written : (perform (writeReport path report) before).1 = none →
    after.find path = .ok (before.lead path, .file report.toForm.pretty.toUTF8)

theorem reported_writeReport (path : String) (tree : FileTree) (report : RestoreReport) :
    Reported path report tree (perform (writeReport path report) tree).2 := by
  have hsprouted := sprouted_makeAbove path tree
  have hlead : (makeAbove path tree).2.lead path = tree.lead path := by
    unfold FileTree.lead
    rw [hsprouted.workingDirectory]
  have hrun := writeReport_run path tree report
  -- Directories that were made for a report stay when it is refused.
  have hrefused : ∀ reason, (perform (writeReport path report) tree).1 = some reason →
      (perform (writeReport path report) tree).2 = (makeAbove path tree).2 →
      Reported path report tree (perform (writeReport path report) tree).2 := by
    intro reason hanswer hafter
    rw [hafter]
    refine ⟨hsprouted.workingDirectory, hsprouted.directory, fun place => ?_, fun hnone => ?_⟩
    · exact (hsprouted.entries place).imp_right .inl
    · rw [hanswer] at hnone
      cases hnone
  cases hmade : (makeAbove path tree).1 with
  | error cause =>
      rw [hmade] at hrun
      exact hrefused _ (congrArg Prod.fst hrun) (congrArg Prod.snd hrun)
  | ok done =>
      rw [hmade] at hrun
      dsimp only at hrun
      cases hwrite : (makeAbove path tree).2.write path report.toForm.pretty.toUTF8 with
      | error cause =>
          rw [hwrite] at hrun
          exact hrefused _ (congrArg Prod.fst hrun) (congrArg Prod.snd hrun)
      | ok changed =>
          rw [hwrite] at hrun
          have hfind := FileTree.find_of_write hwrite
          obtain ⟨hroot, hfree, rfl⟩ := FileTree.write_eq_ok hwrite
          rw [hrun]
          rw [hlead] at hroot hfree hfind ⊢
          refine ⟨hsprouted.workingDirectory, fun place hdirectory => ?_, fun place => ?_,
            fun _ => hfind⟩
          · exact FileTree.directory_set hroot hfree place (hsprouted.directory place hdirectory)
          · rw [FileTree.entryAt?_set _ _ _ _ hroot]
            by_cases hhere : place = tree.lead path
            · exact .inr (.inr ⟨hhere, by rw [hrun]⟩)
            · rw [if_neg hhere]
              exact (hsprouted.entries place).imp_right .inl

end BootRun

end KernelControls
