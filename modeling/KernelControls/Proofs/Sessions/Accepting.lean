import KernelControls.Proofs.Families.Catalogs
import KernelControls.Proofs.Boot.Restart

/-!
# What accepting a session saves

A commit saves what its session shows, one control after the other, each under the path of its
node.  A family is refused if two of its controls have the same name, but not if they have the same
path.  So two controls may share a key, and then the later one is saved over the earlier one: a
commit in which nothing is refused is followed by a saved value that the session never showed for
the control.  Where no other control has the path, what is shown is what is saved.

## Strategy

A session edits exactly the controls of its family (`Engine.Faithful`), and a batch of savings in
which none is refused puts its values over what was saved (`LawfulStore.saved_saveEdits`).  So under
every key the last edit about it is found (`putOver_apply`), and by an edit's own name the edit
itself, because a family that is accepted has distinct names.
-/

namespace KernelControls

variable {World : Type} [NodeAccess (StateM World)] [PreferenceAccess (StateM World)]

/-- Under a name that no other control of the family has, the edit of the control is found. -/
theorem edit?_of_control? {session : Session} {family : Family}
    (hcontrols : session.edits.map Edit.control = family.controls) {name : String}
    {control : Control} (hcontrol : family.control? name = some control) :
    ∃ edit, session.edit? name = some edit ∧ edit.control = control := by
  unfold Family.control? at hcontrol
  rw [← hcontrols, List.find?_map] at hcontrol
  exact Option.map_eq_some_iff.mp hcontrol

/-- A commit of an engine's session in which nothing is refused puts all values that it shows over
what was saved. -/
theorem saved_of_clean_commit [LawfulStore World] {engine : Engine} {world : World} {name : String}
    {session : Session} (hopen : engine.session? name = some session)
    (hclean : (perform (engine.step (.commit name)) world).1.1 = .closed ⟨.committed, []⟩) :
    LawfulStore.saved (perform (engine.step (.commit name)) world).2 session.opening =
      putOver (LawfulStore.saved world session.opening) session.edits := by
  rw [engine.step_commit, engine.commit_some world hopen] at hclean ⊢
  exact LawfulStore.saved_saveEdits session.opening
    (Closing.mk.inj (Answer.closed.inj hclean)).2

omit [NodeAccess (StateM World)] in
/-- What is saved under the key of a control is answered as its saved value. -/
theorem answer_savedValue_of_saved [LawfulStore World] {engine : Engine} {world : World}
    {family : Family} {name : String} {control : Control} {value : Int64}
    (hknown : engine.catalog.get? family.id = some family)
    (hnamed : family.control? name = some control)
    (hsaved : LawfulStore.saved world engine.opening control.key = some value) :
    (perform (engine.savedValue family.id name) world).1 = .ok value := by
  rw [engine.savedValue_known hknown hnamed]
  show Except.ok (Option.getD (perform
    (PreferenceAccess.saved? engine.opening control.key) world).1 _) = _
  rw [LawfulStore.saved_answer, hsaved]
  rfl

/-- **Accepting a session saves what it shows last for each path.**  Let a family be accepted into
a catalog and an engine work through any commands, and let the commit of a session of the family
report that nothing was refused.  As long as what is saved stays so, the saved value of each control
is what the session showed for the last of its controls with the same path.  This is the control
itself where no other one has its path. -/
theorem accepted_values_saved [LawfulStore World] {catalog extended : Catalog} {family : Family}
    (hinsert : catalog.insert family = .ok extended) (opening : Opening) (commands : List Command)
    (world : World) (name : String) (session : Session) (later : List Command) :
    let first := Engine.start extended opening
    let before := first.reach commands world
    let ended := perform (before.1.step (.commit name)) before.2
    let after := ended.1.2.reach later ended.2
    before.1.session? name = some session → session.family = family.id →
    ended.1.1 = .closed ⟨.committed, []⟩ →
    LawfulStore.saved after.2 opening = LawfulStore.saved ended.2 opening →
    ∀ control ∈ family.controls, ∃ shown last,
      (perform (before.1.step (.showControl name control.name)) before.2).1.1 =
        .edit (some shown) ∧ shown.control = control ∧
      session.edits.findRev? (Edit.isAbout control.key) = some last ∧
      (perform (after.1.savedValue family.id control.name) after.2).1 = .ok last.current ∧
      ((∀ other ∈ family.controls, other.key = control.key → other = control) →
        last = shown) := by
  intro first before ended after hopen hfamily hclean hstays control hcontrol
  have hknown := Catalog.get?_of_insert hinsert
  have hfaultless := (Catalog.insert_eq_ok hinsert).1
  have hnamed := Family.control?_of_fault?_eq_none hfaultless hcontrol
  -- The session edits the controls of the family and saves through the engine's opening.
  obtain ⟨hopening, found, hfound, -, hedits⟩ :=
    (faithful_start extended opening).run commands world name session hopen
  obtain ⟨hcatalog, hengine⟩ := run_keeps_catalog first commands world
  rw [hcatalog, hfamily] at hfound
  obtain rfl : family = found := Option.some.inj (hknown.symm.trans hfound)
  replace hopening : session.opening = opening := hopening.trans hengine
  obtain ⟨shown, hshown, habout⟩ := edit?_of_control? hedits hnamed
  have hmem : shown ∈ session.edits := List.mem_of_find?_eq_some hshown
  obtain ⟨last, hlast, hfoundLast, hkey⟩ := exists_findRev?_isAbout hmem
  rw [habout] at hfoundLast hkey
  refine ⟨shown, last, ?_, habout, hfoundLast, ?_, fun halone => ?_⟩
  · simp only [Engine.step, hopen]
    exact congrArg Answer.edit hshown
  · -- After the commit the engine goes on with the same catalog and opening.
    have hafter : after = first.reach (commands ++ .commit name :: later) world :=
      (first.reach_append commands (.commit name :: later) world).symm
    obtain ⟨hcatalogAfter, hopeningAfter⟩ :=
      run_keeps_catalog first (commands ++ .commit name :: later) world
    replace hcatalogAfter : after.1.catalog = extended := hafter ▸ hcatalogAfter
    replace hopeningAfter : after.1.opening = opening := hafter ▸ hopeningAfter
    have hput := saved_of_clean_commit hopen hclean
    rw [hopening] at hput
    apply answer_savedValue_of_saved (hcatalogAfter ▸ hknown) hnamed
    rw [hopeningAfter, hstays, hput, putOver_apply, hfoundLast]
  · have hsame : last.control = control :=
      halone last.control (hedits ▸ List.mem_map_of_mem hlast) hkey
    have hdistinct : (session.edits.map Edit.control).Nodup := by
      rw [hedits]
      exact .of_map Control.name (Family.controls_of_fault?_eq_none hfaultless).2
    exact List.inj_on_of_nodup_map hdistinct hlast hmem (hsame.trans habout.symm)

/-- A family of two controls, each on a node of the given path. -/
def pairOn (left right : String) : Family where
  id := "pair"
  name := "Pair"
  controls :=
    [{ name := "left", path := left, maximum := 9, default := 2 },
      { name := "right", path := right, maximum := 9, default := 2 }]

/-- On benches with the same preferences the same is saved. -/
theorem Bench.saved_of_preferences {bench other : Bench}
    (hsame : bench.preferences = other.preferences) (opening : Opening) :
    LawfulStore.saved bench opening = LawfulStore.saved other opening := by
  show bench.preferences.get? = other.preferences.get?
  rw [hsame]

/-- A bench on which the nodes of a pair are. -/
def pairBench (left right : String) : Bench where
  nodes := [(left, "0"), (right, "0")]

/-- A session of a pair, in which a value is previewed on the left. -/
def leftPreviewed : List Command :=
  [.openSession "editor" "pair" none, .resetSession "editor", .setLive "editor" "left" 1]

/-- The session as it is before it ends. -/
def pairSession (left right : String) : Session where
  family := "pair"
  opening := 0
  coordinator := .shared "pair"
  ticket := ⟨.shared "pair"⟩
  edits :=
    [⟨{ name := "left", path := left, maximum := 9, default := 2 }, 2, 1⟩,
      ⟨{ name := "right", path := right, maximum := 9, default := 2 }, 2, 2⟩]

/-- Of a pair on two nodes both values are saved as they were shown, and stay so while the nodes are
restored. -/
theorem pair_saved :
    let first := Engine.start ⟨[pairOn "/left" "/right"]⟩ 0
    let before := first.reach leftPreviewed (pairBench "/left" "/right")
    let ended := perform (before.1.step (.commit "editor")) before.2
    let after := ended.1.2.reach [.restore none] ended.2
    ended.1.1 = .closed ⟨.committed, []⟩ ∧
      ∀ control ∈ (pairOn "/left" "/right").controls, ∃ shown : Edit,
        (perform (before.1.step (.showControl "editor" control.name)) before.2).1.1 =
          .edit (some shown) ∧
        (perform (after.1.savedValue "pair" control.name) after.2).1 = .ok shown.current := by
  intro first before ended after
  have hclean : ended.1.1 = .closed ⟨.committed, []⟩ := by decide +kernel
  have hpreferences : after.2.preferences = ended.2.preferences := by decide +kernel
  have halone : ∀ control ∈ (pairOn "/left" "/right").controls,
      ∀ other ∈ (pairOn "/left" "/right").controls, other.key = control.key → other = control := by
    decide +kernel
  refine ⟨hclean, fun control hcontrol => ?_⟩
  obtain ⟨shown, last, hshown, -, -, hsaved, hlast⟩ :=
    accepted_values_saved (show Catalog.insert ⟨[]⟩ (pairOn "/left" "/right") = .ok _ from rfl) 0
      leftPreviewed (pairBench "/left" "/right") "editor" (pairSession "/left" "/right")
      [.restore none] (by decide +kernel) rfl hclean (Bench.saved_of_preferences hpreferences 0)
      control hcontrol
  rw [hlast (halone control hcontrol)] at hsaved
  exact ⟨shown, hshown, hsaved⟩

/-- It is not so for a pair on one node: what is saved for the left is what was shown for the
right. -/
theorem left_saved_as_right :
    ¬∀ (catalog extended : Catalog) (family : Family) (commands : List Command) (bench : Bench)
      (name : String) (session : Session),
      let before := (Engine.start extended 0).reach commands bench
      let ended := perform (before.1.step (.commit name)) before.2
      catalog.insert family = .ok extended → family.mode = .session →
      before.1.session? name = some session → session.family = family.id →
      ended.1.1 = .closed ⟨.committed, []⟩ →
      ∀ control ∈ family.controls, ∀ shown : Edit,
        (perform (before.1.step (.showControl name control.name)) before.2).1.1 =
          .edit (some shown) →
        (perform (ended.1.2.savedValue family.id control.name) ended.2).1 = .ok shown.current := by
  intro hall
  have hsaved := hall ⟨[]⟩ ⟨[pairOn "/n" "/n"]⟩ (pairOn "/n" "/n") leftPreviewed
    (pairBench "/n" "/n") "editor" (pairSession "/n" "/n") (by decide +kernel) rfl
    (by decide +kernel) rfl (by decide +kernel) _ List.mem_cons_self
    ⟨{ name := "left", path := "/n", maximum := 9, default := 2 }, 2, 1⟩ (by decide +kernel)
  exact absurd hsaved (by decide +kernel)

end KernelControls
