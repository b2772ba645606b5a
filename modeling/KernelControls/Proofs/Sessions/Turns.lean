import KernelControls.Proofs.Boot.Restoring

/-!
# Editors that take turns

Here every family has at most one session at a time, opened by the editor of the family and
counted by its shared coordinator.  Direct settings and questions come at any time, and restoring
when no session is open.  Every write and every saving is accepted.

## Strategy

`Engine.Turn` lists what a command does then, to the engine and to what can be seen: one
constructor for each way a command can go, with all that is known about it.  `turn_of_step` is the
only place where the commands are looked into.  That no two sessions share a family is an
invariant of the engine alone, `Engine.InTurn`; it says that whoever ends a session is the last
one out.
-/

namespace KernelControls

namespace Engine

/-! ## Commands in turn -/

/-- No session is open on the family of an id. -/
def NoneOn (engine : Engine) (id : String) : Prop :=
  ∀ name session, engine.session? name = some session → session.family ≠ id

/-- Whether a command lets the editors take turns. -/
def permits (engine : Engine) : Command → Bool
  | .openSession _ id coordinator =>
    coordinator.isNone && engine.sessions.all fun entry => entry.2.family ≠ id
  | .setLive .. | .resetSession _ | .commit _ | .cancel _ | .drop _ | .applyDirect .. => true
  | .restore _ => engine.sessions.isEmpty
  | command => command.asks

section Going

variable {World : Type} [NodeAccess (StateM World)] [PreferenceAccess (StateM World)]

/-- Whether no write and no saving that a command makes is refused, in sessions or outside. -/
def succeeds (engine : Engine) (world : World) : Command → Bool
  | .applyDirect id name value =>
    match (perform (engine.applyDirect id name value) world).1 with
    | .ok written => written
    | .error (.store _) => false
    | .error _ => true
  | .restore _ => (perform engine.restore world).1.failures = 0
  | command => engine.goesWell world command

/-- Whether the editors take turns in a run, and nothing is refused in it. -/
def takesTurns (engine : Engine) : List Command → World → Bool
  | [], _ => true
  | command :: rest, world =>
    let next := perform (engine.step command) world
    engine.permits command && engine.succeeds world command && next.1.2.takesTurns rest next.2

end Going

/-! ## Whose turn it is -/

/-- At most one session is open on every family, on one that is edited in sessions.  It is counted
by the shared coordinator of the family, which counts nothing else. -/
structure InTurn (engine : Engine) : Prop where
  alone : ∀ name other session sibling, engine.session? name = some session →
    engine.session? other = some sibling → session.family = sibling.family → name = other
  mode : ∀ name session, engine.session? name = some session →
    ∃ family, engine.catalog.get? session.family = some family ∧ family.mode = .session
  ticket : ∀ name session, engine.session? name = some session →
    session.coordinator = .shared session.family ∧ session.ticket = ⟨.shared session.family⟩
  counted : ∀ name session, engine.session? name = some session →
    engine.coordinators.openCount (.shared session.family) = 1
  idle : ∀ id, engine.NoneOn id → engine.coordinators.openCount (.shared id) = 0

variable {engine : Engine} {name : String} {session : Session}

theorem session?_of_sessions_nil (hnone : engine.sessions = []) (name : String) :
    engine.session? name = none := by
  unfold session?
  rw [hnone]
  rfl

theorem noneOn_of_sessions_nil (hnone : engine.sessions = []) (id : String) :
    engine.NoneOn id := by
  intro name session hopen
  rw [session?_of_sessions_nil hnone] at hopen
  cases hopen

theorem noneOn_of_all {id : String}
    (hall : (engine.sessions.all fun entry => entry.2.family ≠ id) = true) :
    engine.NoneOn id := by
  intro name session hopen
  obtain ⟨before, after, hsplit, -⟩ := List.lookup_eq_some_iff.mp hopen
  have hmem : (name, session) ∈ engine.sessions := by
    rw [hsplit]
    exact List.mem_append_right _ List.mem_cons_self
  exact of_decide_eq_true (List.all_eq_true.mp hall _ hmem)

theorem inTurn_of_sessions_nil (hnone : engine.sessions = [])
    (hidle : ∀ coordinator, engine.coordinators.openCount coordinator = 0) : engine.InTurn := by
  have hclosed : ∀ name session, engine.session? name ≠ some session := by
    intro name session hopen
    rw [session?_of_sessions_nil hnone] at hopen
    cases hopen
  exact {
    alone := fun name _ session _ hopen => absurd hopen (hclosed name session)
    mode := fun name session hopen => absurd hopen (hclosed name session)
    ticket := fun name session hopen => absurd hopen (hclosed name session)
    counted := fun name session hopen => absurd hopen (hclosed name session)
    idle := fun id _ => hidle (.shared id) }

namespace InTurn

variable (inTurn : engine.InTurn)

include inTurn

/-- Closing the only session of a coordinator leaves it idle. -/
theorem close (hopen : engine.session? name = some session) :
    engine.coordinators.close session.coordinator session.ticket =
      (true, engine.coordinators.setCount (.shared session.family) 0) := by
  obtain ⟨hcoordinator, hticket⟩ := inTurn.ticket name session hopen
  unfold Coordinators.close
  rw [hcoordinator, hticket, if_neg (not_not.mpr rfl), inTurn.counted name session hopen]
  rfl

theorem isLastOut (hopen : engine.session? name = some session) :
    engine.isLastOut session = true := by
  unfold Engine.isLastOut
  rw [inTurn.close hopen]

/-- Editing a session leaves it the only one of its family. -/
theorem putSession {edited : Session} (hopen : engine.session? name = some session)
    (hframe : edited.SameFrame session) : (engine.putSession name edited).InTurn := by
  have hbefore : ∀ other found, (engine.putSession name edited).session? other = some found →
      ∃ earlier, engine.session? other = some earlier ∧ found.SameFrame earlier :=
    fun _ _ hfound => frame_putSession hopen hframe hfound
  have hafter : ∀ id, (engine.putSession name edited).NoneOn id → engine.NoneOn id := by
    intro id hnone other found hfound
    by_cases hsame : other = name
    · obtain rfl : session = found := Option.some.inj (hopen.symm.trans (hsame ▸ hfound))
      rw [← hframe.family]
      exact hnone name edited (by simp)
    · exact hnone other found (by simp [hsame, hfound])
  refine ⟨?_, ?_, ?_, ?_, fun id hnone => inTurn.idle id (hafter id hnone)⟩
  · -- Two sessions of one family were two before.
    intro one other first second hfirst hsecond hfamily
    obtain ⟨earlier, hearlier, hone⟩ := hbefore one first hfirst
    obtain ⟨sibling, hsibling, hother⟩ := hbefore other second hsecond
    refine inTurn.alone one other earlier sibling hearlier hsibling ?_
    rw [← hone.family, ← hother.family, hfamily]
  · intro other found hfound
    obtain ⟨earlier, hearlier, hsame⟩ := hbefore other found hfound
    rw [hsame.family]
    exact inTurn.mode other earlier hearlier
  · intro other found hfound
    obtain ⟨earlier, hearlier, hsame⟩ := hbefore other found hfound
    rw [hsame.coordinator, hsame.ticket, hsame.family]
    exact inTurn.ticket other earlier hearlier
  · intro other found hfound
    obtain ⟨earlier, hearlier, hsame⟩ := hbefore other found hfound
    rw [hsame.family]
    exact inTurn.counted other earlier hearlier

/-- Ending a session leaves its family without one. -/
theorem withoutSession (hopen : engine.session? name = some session) :
    (engine.withoutSession name session).InTurn := by
  have hcoordinators : (engine.withoutSession name session).coordinators =
      engine.coordinators.setCount (.shared session.family) 0 := by
    show (engine.coordinators.close session.coordinator session.ticket).2 = _
    rw [inTurn.close hopen]
  have hbefore : ∀ other found, (engine.withoutSession name session).session? other = some found →
      other ≠ name ∧ engine.session? other = some found := by
    intro other found hfound
    rw [session?_withoutSession] at hfound
    split at hfound
    · cases hfound
    · next hother => exact ⟨hother, hfound⟩
  refine ⟨?_, ?_, ?_, ?_, fun id hnone => ?_⟩
  · intro one other first second hfirst hsecond hfamily
    exact inTurn.alone one other first second (hbefore one first hfirst).2
      (hbefore other second hsecond).2 hfamily
  · exact fun other found hfound => inTurn.mode other found (hbefore other found hfound).2
  · exact fun other found hfound => inTurn.ticket other found (hbefore other found hfound).2
  · intro other found hfound
    obtain ⟨hother, hopenBefore⟩ := hbefore other found hfound
    -- The other session is of another family, whose count is another one.
    have hfamily : CoordinatorName.shared found.family ≠ .shared session.family := fun hsame =>
      hother (inTurn.alone other name found session hopenBefore hopen
        (CoordinatorName.shared.inj hsame))
    simpa [hcoordinators, hfamily] using inTurn.counted other found hopenBefore
  · rw [hcoordinators, Coordinators.openCount_setCount]
    split
    · rfl
    · next hid =>
        refine inTurn.idle id fun other found hfound hfamily => ?_
        have hother : other ≠ name := by
          rintro rfl
          obtain rfl : session = found := Option.some.inj (hopen.symm.trans hfound)
          exact hid (congrArg CoordinatorName.shared hfamily.symm)
        refine hnone other found ?_ hfamily
        simp [hother, hfound]

/-- A session on a family without one is the only one of its family. -/
theorem withSession {family : Family} (hfree : engine.session? name = none)
    (hnone : engine.NoneOn family.id)
    (hknown : engine.catalog.get? family.id = some family) (hmode : family.mode = .session)
    (edits : List Edit) :
    (engine.withSession name
      (engine.newSession family (.shared family.id) edits)).InTurn := by
  let opened := engine.newSession family (.shared family.id) edits
  have hcases : ∀ other found, (engine.withSession name opened).session? other = some found →
      (other = name ∧ found = opened) ∨
        (engine.session? other = some found ∧ found.family ≠ family.id) := by
    intro other found hfound
    rw [session?_withSession] at hfound
    split at hfound
    · next hsame => exact .inl ⟨hsame, (Option.some.inj hfound).symm⟩
    · exact .inr ⟨hfound, hnone other found hfound⟩
  have hcount : ∀ id, (engine.withSession name opened).coordinators.openCount (.shared id) =
      if id = family.id then 1 else engine.coordinators.openCount (.shared id) := by
    intro id
    show (engine.coordinators.setCount (.shared family.id)
      (engine.coordinators.openCount (.shared family.id) + 1)).openCount (.shared id) = _
    rw [Coordinators.openCount_setCount, inTurn.idle family.id hnone]
    simp only [CoordinatorName.shared.injEq]
  refine ⟨?_, ?_, ?_, ?_, fun id hafter => ?_⟩
  · intro one other first second hfirst hsecond hfamily
    rcases hcases one first hfirst with ⟨rfl, rfl⟩ | ⟨hopenOne, hone⟩
    · rcases hcases other second hsecond with ⟨rfl, -⟩ | ⟨-, hother⟩
      · rfl
      · exact absurd hfamily.symm hother
    · rcases hcases other second hsecond with ⟨-, rfl⟩ | ⟨hopenOther, -⟩
      · exact absurd hfamily hone
      · exact inTurn.alone one other first second hopenOne hopenOther hfamily
  · intro other found hfound
    rcases hcases other found hfound with ⟨-, rfl⟩ | ⟨hopen, -⟩
    · exact ⟨family, hknown, hmode⟩
    · exact inTurn.mode other found hopen
  · intro other found hfound
    rcases hcases other found hfound with ⟨-, rfl⟩ | ⟨hopen, -⟩
    · exact ⟨rfl, rfl⟩
    · exact inTurn.ticket other found hopen
  · intro other found hfound
    rw [hcount]
    rcases hcases other found hfound with ⟨-, rfl⟩ | ⟨hopen, hother⟩
    · exact if_pos rfl
    · rw [if_neg hother]
      exact inTurn.counted other found hopen
  · -- A family without a session now is not the one just opened.
    have hid : id ≠ family.id := fun hsame =>
      hafter name opened (by simp [opened]) hsame.symm
    rw [hcount, if_neg hid]
    refine inTurn.idle id fun other found hopen => ?_
    have hother : other ≠ name := by
      rintro rfl
      rw [hfree] at hopen
      cases hopen
    exact hafter other found (by simp [hother, hopen])

end InTurn

/-! ## What a turn does -/

/-- What a command in turn does to the engine and to what can be seen, if nothing is refused. -/
inductive Turn {Place : Type} [DecidableEq Place] (engine : Engine) (seen : Scene Place) :
    Engine → Scene Place → Prop where
  /-- A question, or a request that is refused before anything is touched. -/
  | looking : engine.Turn seen engine seen
  /-- A session is opened on a family that has none, and captures what is saved. -/
  | opening {name : String} {family : Family} (free : engine.session? name = none)
      (none : engine.NoneOn family.id) (known : engine.catalog.get? family.id = some family)
      (mode : family.mode = .session)
      (present : ∀ control ∈ family.controls, seen.tree.isPresent control.path = true) :
      engine.Turn seen
        (engine.withSession name (engine.newSession family (.shared family.id)
          (seen.capture engine.opening family.controls))) seen
  /-- One control of a session is set. -/
  | previewing {name control : String} {session : Session} {edit : Edit} (value : Int64)
      (found : engine.session? name = some session)
      (known : session.edit? control = some edit) :
      engine.Turn seen (engine.putSession name (session.preview control value))
        ⟨seen.tree.putAll [(edit.preview value).node], seen.saved⟩
  /-- All controls of a session are set to their defaults. -/
  | resetting {name : String} {session : Session} (found : engine.session? name = some session) :
      engine.Turn seen (engine.putSession name session.previewDefaults)
        ⟨seen.tree.putAll (session.previewDefaults.edits.map Edit.node), seen.saved⟩
  /-- A session is accepted, and all its values are saved. -/
  | committing {name : String} {session : Session} {saved : Opening → String → Option Int64}
      (found : engine.session? name = some session)
      (saves : ∀ edit ∈ session.edits,
        saved session.opening edit.control.key = some edit.current)
      (keeps : ∀ key, (∀ edit ∈ session.edits, key ≠ edit.control.key) →
        saved session.opening key = seen.saved session.opening key) :
      engine.Turn seen (engine.withoutSession name session) ⟨seen.tree, saved⟩
  /-- A session is given up, and the values it captured are put back. -/
  | reverting {name : String} {session : Session} (found : engine.session? name = some session) :
      engine.Turn seen (engine.withoutSession name session)
        ⟨seen.tree.putAll (session.reverted.map Edit.node), seen.saved⟩
  /-- A control of a direct family is written and saved. -/
  | setting {family : Family} {control : Control} {saved : Opening → String → Option Int64}
      (value : Int64) (known : engine.catalog.get? family.id = some family)
      (mode : family.mode = .direct) (member : control ∈ family.controls)
      (present : ∀ control ∈ family.controls, seen.tree.isPresent control.path = true)
      (saves : saved engine.opening =
        Function.update (seen.saved engine.opening) control.key (some value)) :
      engine.Turn seen engine
        ⟨seen.tree.putAll [(control.path, control.codec.encode value)], saved⟩
  /-- All families are restored while no session is open. -/
  | restoring {tree : NodeTree Place} (closed : engine.sessions = [])
      (place : tree.place = seen.tree.place)
      (settled : ∀ family ∈ engine.catalog.families,
        Scene.Settled ⟨tree, seen.saved⟩ engine.opening family.controls) :
      engine.Turn seen engine ⟨tree, seen.saved⟩

namespace Turn

variable {Place : Type} [DecidableEq Place] {seen later : Scene Place} {after : Engine}
  (turn : engine.Turn seen after later)

include turn

theorem place : later.tree.place = seen.tree.place := by
  cases turn with
  | looking | opening | committing => rfl
  | previewing | resetting | reverting | setting => exact NodeTree.place_putAll _ _
  | restoring closed place settled => exact place

theorem catalog : after.catalog = engine.catalog := by
  cases turn <;> rfl

theorem inTurn (before : engine.InTurn) : after.InTurn := by
  cases turn with
  | looking | setting | restoring => exact before
  | opening free none known mode present => exact before.withSession free none known mode _
  | previewing value found known => exact before.putSession found (.preview _ _ value)
  | resetting found => exact before.putSession found (.previewDefaults _)
  | committing found saves keeps => exact before.withoutSession found
  | reverting found => exact before.withoutSession found

end Turn

section Lawful

variable {World Place : Type} [DecidableEq Place] [NodeAccess (StateM World)]
  [PreferenceAccess (StateM World)] [LawfulBackend World Place] {world : World}

theorem turn_of_openSession {id : String} (hnone : engine.NoneOn id) (name : String) :
    let opened := perform (engine.openSession name id none) world
    engine.Turn (scene world) opened.1.2 (scene opened.2) := by
  intro opened
  rcases engine.openSession_cases world name id none with
    ⟨error, after, hrun, rfl | ⟨family, rfl⟩⟩ | ⟨family, hfree, openable, hrun⟩
  · rw [show opened = _ from hrun]
    exact .looking
  · rw [show opened = _ from hrun, OnlyLooks.isSupported family world]
    exact .looking
  · obtain ⟨hknown, rfl, -⟩ := openable.catalogued
    rw [show opened = _ from hrun]
    simp only [OnlyLooks.captureEdits engine.opening family.controls _, answer_captureEdits,
      OnlyLooks.isSupported family world]
    exact .opening hfree hnone hknown openable.mode
      (isPresent_of_isSupported world openable.supported)

theorem turn_of_setLive {control : String} {value : Int64}
    (hwell : engine.goesWell world (.setLive name control value) = true) :
    let shown := perform (engine.setLive name control value) world
    engine.Turn (scene world) shown.1.2 (scene shown.2) := by
  intro shown
  have hafter := (writes_setLive engine name control value world).eq_putAll hwell
  cases hopen : engine.session? name with
  | none =>
      rw [show shown = _ from engine.setLive_none world hopen control value]
      exact .looking
  | some session =>
      cases hknown : session.edit? control with
      | none =>
          rw [show shown = _ from engine.setLive_unknown world hopen hknown value]
          exact .looking
      | some edit =>
          have hshows : engine.shows (.setLive name control value) = [edit.preview value] := by
            simp only [Engine.shows, hopen, hknown]
            rfl
          rw [hshows] at hafter
          rw [show scene shown.2 = _ from hafter,
            show shown.1.2 = engine.putSession name (session.preview control value) from
              congrArg (fun result => result.1.2) (engine.setLive_known world hopen hknown value)]
          exact .previewing value hopen hknown

theorem turn_of_resetSession (hwell : engine.goesWell world (.resetSession name) = true) :
    let shown := perform (engine.resetSession name) world
    engine.Turn (scene world) shown.1.2 (scene shown.2) := by
  intro shown
  have hafter := (writes_resetSession engine name world).eq_putAll hwell
  cases hopen : engine.session? name with
  | none =>
      rw [show shown = _ from engine.resetSession_none world hopen]
      exact .looking
  | some session =>
      have hshows : engine.shows (.resetSession name) = session.previewDefaults.edits := by
        simp only [Engine.shows, hopen]
      rw [hshows] at hafter
      rw [show scene shown.2 = _ from hafter,
        show shown.1.2 = engine.putSession name session.previewDefaults from
          congrArg (fun result => result.1.2) (engine.resetSession_some world hopen)]
      exact .resetting hopen

theorem turn_of_commit
    (hkeys : ∀ session, engine.session? name = some session →
      (session.edits.map fun edit => edit.control.key).Nodup)
    (hwell : engine.goesWell world (.commit name) = true) :
    let closed := perform (engine.closeSession name true) world
    engine.Turn (scene world) closed.1.2 (scene closed.2) := by
  intro closed
  cases hopen : engine.session? name with
  | none =>
      rw [show closed = _ from engine.closeSession_none world hopen true]
      exact .looking
  | some session =>
      have hrun := engine.commit_some world hopen
      -- That it went well says that no saving was refused.
      have haccepted : (perform (saveEdits session.opening session.edits) world).1 = [] := by
        unfold Engine.goesWell at hwell
        simp only [hrun] at hwell
        exact List.isEmpty_iff.mp hwell
      obtain ⟨hsaves, hkeeps⟩ :=
        saveEdits_saved world session.opening (hkeys session hopen) haccepted
      rw [show closed = _ from hrun]
      have hturn : engine.Turn (scene world) (engine.withoutSession name session)
          ⟨(scene world).tree,
            (scene (perform (saveEdits session.opening session.edits) world).2).saved⟩ :=
        .committing hopen hsaves hkeeps
      rw [← saveEdits_tree world session.opening session.edits] at hturn
      exact hturn

theorem turn_of_giveUp (inTurn : engine.InTurn)
    (hwell : engine.goesWell world (.cancel name) = true) :
    let closed := perform (engine.closeSession name false) world
    engine.Turn (scene world) closed.1.2 (scene closed.2) := by
  intro closed
  have hafter := (writes_giveUp engine name world).eq_putAll hwell
  cases hopen : engine.session? name with
  | none =>
      rw [show closed = _ from engine.closeSession_none world hopen false]
      exact .looking
  | some session =>
      -- In turn, the only session of a family is the last one out.
      have hshows : engine.shows (.cancel name) = session.reverted := by
        simp only [Engine.shows, hopen, inTurn.isLastOut hopen, if_true]
      rw [hshows] at hafter
      rw [show scene closed.2 = _ from hafter,
        show closed.1.2 = engine.withoutSession name session from
          congrArg (fun result => result.1.2) (engine.closeSession_some world hopen false)]
      exact .reverting hopen

/-- A direct setting of which nothing is refused puts its text on the node and saves its value. -/
theorem scene_applyDirect {id name : String} {value : Int64} {family : Family} {control : Control}
    (hfound : engine.directControl id name = .ok (family, control))
    (hsupported : (perform family.isSupported world).1 = true)
    (hsucceeds : engine.succeeds world (.applyDirect id name value) = true) :
    let applied := perform (engine.applyDirect id name value) world
    (scene applied.2).tree =
        (scene world).tree.putAll [(control.path, control.codec.encode value)] ∧
      (scene applied.2).saved engine.opening =
        Function.update ((scene world).saved engine.opening) control.key (some value) := by
  have hrun := engine.applyDirect_supported world value hfound hsupported
  let looked := (perform family.isSupported world).2
  let written := perform (control.write value) looked
  let saved := perform (PreferenceAccess.save engine.opening control.key value) written.2
  have hlooked : scene looked = scene world := OnlyLooks.isSupported family world
  -- The answer tells whether the node took the text, and an error is one of the store.
  have haccepted : written.1 = .ok () ∧ saved.1 = .ok () := by
    unfold succeeds at hsucceeds
    simp only [hrun] at hsucceeds
    cases hsaved : saved.1 with
    | error reason =>
        rw [show (perform (PreferenceAccess.save _ _ _) _).1 = _ from hsaved] at hsucceeds
        cases hsucceeds
    | ok done =>
        rw [show (perform (PreferenceAccess.save _ _ _) _).1 = _ from hsaved] at hsucceeds
        exact ⟨eq_ok_of_isOk hsucceeds, rfl⟩
  have hwrites : scene written.2 = _ :=
    (Writes.node control.path (control.codec.encode value) looked).eq_putAll haccepted.1
  rw [hlooked] at hwrites
  intro applied
  rw [show applied = _ from hrun]
  constructor
  · rw [show (scene saved.2).tree = (scene written.2).tree from
      LawfulBackend.save_tree engine.opening control.key value written.2, hwrites]
  · rw [show (scene saved.2).saved engine.opening = _ from LawfulStore.save_accepted
      engine.opening control.key value written.2 haccepted.2]
    show Function.update ((scene written.2).saved engine.opening) _ _ = _
    rw [hwrites]

theorem turn_of_applyDirect {id name : String} {value : Int64}
    (hsucceeds : engine.succeeds world (.applyDirect id name value) = true) :
    engine.Turn (scene world) engine
      (scene (perform (engine.applyDirect id name value) world).2) := by
  cases hfound : engine.directControl id name with
  | error error =>
      rw [engine.applyDirect_refused world value hfound]
      exact .looking
  | ok pair =>
      obtain ⟨family, control⟩ := pair
      have hlooked : scene (perform family.isSupported world).2 = scene world :=
        OnlyLooks.isSupported family world
      obtain ⟨hknown, hmode, hnamed⟩ := engine.directControl_eq_ok hfound
      cases hsupported : (perform family.isSupported world).1 with
      | false =>
          rw [engine.applyDirect_unsupported world value hfound hsupported, hlooked]
          exact .looking
      | true =>
          obtain ⟨htree, hsaved⟩ := scene_applyDirect hfound hsupported hsucceeds
          have hturn : engine.Turn (scene world) engine
              ⟨(scene world).tree.putAll [(control.path, control.codec.encode value)],
                (scene (perform (engine.applyDirect id name value) world).2).saved⟩ :=
            .setting value (engine.get?_of_family hknown).1 hmode
              (List.mem_of_find?_eq_some hnamed) (isPresent_of_isSupported world hsupported) hsaved
          rw [← htree] at hturn
          exact hturn

theorem turn_of_restore
    (howns : ∀ family ∈ engine.catalog.families,
      family.OwnsNodes (scene world).tree.place engine.catalog.families)
    (hclosed : engine.sessions = [])
    (hclean : (perform engine.restore world).1.failures = 0) :
    engine.Turn (scene world) engine (scene (perform engine.restore world).2) := by
  have hfailures := (RestoreReport.failures_eq_zero_iff _).mp hclean
  have hsaved : (scene (perform engine.restore world).2).saved = (scene world).saved :=
    restoreFamilies_saved
  have hturn : engine.Turn (scene world) engine
      ⟨(scene (perform engine.restore world).2).tree, (scene world).saved⟩ := by
    refine .restoring hclosed restoreFamilies_place fun family hfamily => ?_
    rw [← hsaved]
    exact (howns family hfamily).settled_restoreFamilies hfailures (.inl hfamily)
  rw [← hsaved] at hturn
  exact hturn

/-- A command in turn in which nothing is refused takes one of the turns. -/
theorem turn_of_step (inTurn : engine.InTurn) (faithful : engine.Faithful)
    (howns : ∀ family ∈ engine.catalog.families,
      family.OwnsNodes (scene world).tree.place engine.catalog.families) {command : Command}
    (hpermits : engine.permits command = true)
    (hsucceeds : engine.succeeds world command = true) :
    engine.Turn (scene world) (perform (engine.step command) world).1.2
      (scene (perform (engine.step command) world).2) := by
  by_cases hasks : command.asks = true
  · obtain ⟨hengine, hscene⟩ := step_of_asks engine world hasks
    rw [hengine, hscene]
    exact .looking
  cases command with
  | openSession name id coordinator =>
      obtain ⟨hcoordinator, hall⟩ := Bool.and_eq_true_iff.mp hpermits
      obtain rfl : coordinator = none := Option.isNone_iff_eq_none.mp hcoordinator
      exact turn_of_openSession (noneOn_of_all hall) name
  | setLive name control value => exact turn_of_setLive hsucceeds
  | resetSession name => exact turn_of_resetSession hsucceeds
  | commit name =>
      refine turn_of_commit (fun session hopen => ?_) hsucceeds
      obtain ⟨-, family, hknown, -, hcontrols⟩ := faithful name session hopen
      exact nodup_keys_of_places _ hcontrols
        (howns family (List.mem_of_find?_eq_some hknown)).distinct
  | cancel name => exact turn_of_giveUp inTurn hsucceeds
  | drop name => exact turn_of_giveUp inTurn hsucceeds
  | applyDirect id name value => exact turn_of_applyDirect hsucceeds
  | restore focus =>
      exact turn_of_restore howns (List.isEmpty_iff.mp hpermits) (of_decide_eq_true hsucceeds)
  | openTicket | closeTicket | writeLine | restoreFamily => cases hpermits
  | _ => exact absurd rfl hasks

end Lawful

end Engine

end KernelControls
