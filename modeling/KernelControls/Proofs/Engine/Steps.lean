import KernelControls.Proofs.Backends.Effects
import KernelControls.Proofs.Sessions.OpenCount

/-!
# What one command can do

A command on sessions changes three things: which sessions are open, what their edits preview,
and what the nodes show.

## Strategy

`session?_step` looks back from an open session to where it comes from: it was open before, with
the same captured values, or the command opened it.  `Engine.shows` lists the edits whose values
a command puts on the nodes, as a function of the engine alone, and `writes_step` says that the
command does to the nodes what a batch of these edits does.  The two lemmas are all that a law
about runs has to know of the commands that preview or give up; saving is stated by itself.
-/

namespace KernelControls

/-! ## The frame of a session -/

/-- Two sessions that differ in nothing but the values they preview. -/
structure Session.SameFrame (session other : Session) : Prop where
  family : session.family = other.family
  opening : session.opening = other.opening
  coordinator : session.coordinator = other.coordinator
  ticket : session.ticket = other.ticket
  controls : session.edits.map Edit.control = other.edits.map Edit.control
  captured : session.edits.map Edit.captured = other.edits.map Edit.captured

namespace Session.SameFrame

variable (session : Session)

theorem refl : session.SameFrame session :=
  ⟨rfl, rfl, rfl, rfl, rfl, rfl⟩

theorem preview (name : String) (value : Int64) : (session.preview name value).SameFrame session :=
  ⟨rfl, rfl, rfl, rfl, control_previewFirst name value _, captured_previewFirst name value _⟩

theorem previewDefaults : session.previewDefaults.SameFrame session := by
  refine ⟨rfl, rfl, rfl, rfl, ?_, ?_⟩
  · show (session.edits.map _).map Edit.control = _
    rw [List.map_map]
    rfl
  · show (session.edits.map _).map Edit.captured = _
    rw [List.map_map]
    rfl

end Session.SameFrame

/-! ## Sessions after a command -/

variable {World Place : Type} [DecidableEq Place] [NodeAccess (StateM World)]
  [PreferenceAccess (StateM World)]

/-- No command changes the catalog or the opening of the store. -/
theorem step_keeps_catalog (engine : Engine) (command : Command) (world : World) :
    (perform (engine.step command) world).1.2.catalog = engine.catalog ∧
      (perform (engine.step command) world).1.2.opening = engine.opening := by
  by_cases hleaves : Engine.leavesEngine command = true
  · rw [engine.step_of_leavesEngine world hleaves]
    exact ⟨rfl, rfl⟩
  cases command with
  | openSession name id coordinator =>
      rw [engine.step_openSession]
      rcases engine.openSession_cases world name id coordinator with
        ⟨error, after, hrun, -⟩ | ⟨family, -, -, hrun⟩
      · rw [hrun]; exact ⟨rfl, rfl⟩
      · rw [hrun]; exact ⟨rfl, rfl⟩
  | setLive name control value =>
      rw [engine.step_setLive]
      cases hopen : engine.session? name with
      | none => rw [engine.setLive_none world hopen]; exact ⟨rfl, rfl⟩
      | some session =>
          cases hknown : session.edit? control with
          | none => rw [engine.setLive_unknown world hopen hknown]; exact ⟨rfl, rfl⟩
          | some edit => rw [engine.setLive_known world hopen hknown]; exact ⟨rfl, rfl⟩
  | resetSession name =>
      rw [engine.step_resetSession]
      cases hopen : engine.session? name with
      | none => rw [engine.resetSession_none world hopen]; exact ⟨rfl, rfl⟩
      | some session => rw [engine.resetSession_some world hopen]; exact ⟨rfl, rfl⟩
  | commit name => exact engine.closeSession_keeps_catalog world true
  | cancel name | drop name => exact engine.closeSession_keeps_catalog world false
  | openTicket => exact ⟨rfl, rfl⟩
  | closeTicket name coordinator =>
      show (engine.closeTicket name coordinator).2.catalog = _ ∧
        (engine.closeTicket name coordinator).2.opening = _
      unfold Engine.closeTicket
      cases engine.tickets.lookup name <;> exact ⟨rfl, rfl⟩
  | _ => exact absurd rfl hleaves

theorem run_keeps_catalog (engine : Engine) (commands : List Command) (world : World) :
    (perform (engine.run commands) world).1.2.catalog = engine.catalog ∧
      (perform (engine.run commands) world).1.2.opening = engine.opening := by
  induction commands generalizing engine world with
  | nil => exact ⟨rfl, rfl⟩
  | cons command rest ih =>
      obtain ⟨hcatalog, hopening⟩ := step_keeps_catalog engine command world
      rw [engine.run_cons, ← hcatalog, ← hopening]
      exact ih _ _

/-- Putting a session in its place within its frame leaves the frames of all sessions. -/
theorem Engine.frame_putSession {engine : Engine} {name edited : String}
    {before after session : Session} (hbefore : engine.session? edited = some before)
    (hframe : after.SameFrame before)
    (hopen : (engine.putSession edited after).session? name = some session) :
    ∃ earlier, engine.session? name = some earlier ∧ session.SameFrame earlier := by
  rw [session?_putSession] at hopen
  split at hopen
  · next hsame => exact ⟨before, hsame ▸ hbefore, Option.some.inj hopen ▸ hframe⟩
  · exact ⟨session, hopen, .refl session⟩

/-- A session that is open after a command was open before, in the same frame, or the command
opened it and captured what the store answered. -/
theorem session?_after (engine : Engine) (command : Command) (world : World) {name : String}
    {session : Session}
    (hopen : (perform (engine.step command) world).1.2.session? name = some session) :
    (∃ earlier, engine.session? name = some earlier ∧ session.SameFrame earlier) ∨
    (∃ id coordinator family, command = .openSession name id coordinator ∧
      engine.session? name = none ∧ engine.Openable world id family ∧
      session = engine.newSession family (coordinator.getD (.shared id))
        (perform (captureEdits engine.opening family.controls)
          (perform family.isSupported world).2).1) := by
  have hkept : ∀ found, engine.session? name = some found →
      ∃ earlier, engine.session? name = some earlier ∧ found.SameFrame earlier :=
    fun found hfound => ⟨found, hfound, .refl found⟩
  by_cases hleaves : Engine.leavesEngine command = true
  · rw [engine.step_of_leavesEngine world hleaves] at hopen
    exact .inl (hkept session hopen)
  cases command with
  | openSession opened id coordinator =>
      rw [engine.step_openSession] at hopen
      rcases engine.openSession_cases world opened id coordinator with
        ⟨error, after, hrun, -⟩ | ⟨family, hfree, hopenable, hrun⟩
      · rw [hrun] at hopen
        exact .inl (hkept session hopen)
      · -- The one way for a session to come to be.
        simp only [hrun, Engine.session?_withSession] at hopen
        split at hopen
        · next hsame =>
            refine .inr ⟨id, coordinator, family, by rw [hsame], hsame ▸ hfree, hopenable, ?_⟩
            exact (Option.some.inj hopen).symm
        · exact .inl (hkept session hopen)
  | setLive edited control value =>
      rw [engine.step_setLive] at hopen
      cases hbefore : engine.session? edited with
      | none =>
          rw [engine.setLive_none world hbefore] at hopen
          exact .inl (hkept session hopen)
      | some before =>
          cases hknown : before.edit? control with
          | none =>
              rw [engine.setLive_unknown world hbefore hknown] at hopen
              exact .inl (hkept session hopen)
          | some edit =>
              rw [engine.setLive_known world hbefore hknown] at hopen
              exact .inl (Engine.frame_putSession hbefore (.preview before control value) hopen)
  | resetSession edited =>
      rw [engine.step_resetSession] at hopen
      cases hbefore : engine.session? edited with
      | none =>
          rw [engine.resetSession_none world hbefore] at hopen
          exact .inl (hkept session hopen)
      | some before =>
          rw [engine.resetSession_some world hbefore] at hopen
          exact .inl (Engine.frame_putSession hbefore (.previewDefaults before) hopen)
  | commit ending => exact .inl (hkept session (engine.session?_of_closeSession world hopen))
  | cancel ending | drop ending =>
      exact .inl (hkept session (engine.session?_of_closeSession world hopen))
  | openTicket => exact .inl (hkept session hopen)
  | closeTicket ticket coordinator =>
      exact .inl (hkept session (engine.session?_closeTicket coordinator name ▸ hopen))
  | _ => exact absurd rfl hleaves

/-! ## Sessions edit their families -/

omit [NodeAccess (StateM World)] in
@[simp] theorem control_captureEdits (opening : Opening) (controls : List Control) (world : World) :
    (perform (captureEdits opening controls) world).1.map Edit.control = controls := by
  induction controls generalizing world with
  | nil => rfl
  | cons control rest ih =>
      exact congrArg (control :: ·) (ih (perform (control.saved opening) world).2)

/-- Every open session edits the controls of a family of the catalog, in order. -/
def Engine.Faithful (engine : Engine) : Prop :=
  ∀ name session, engine.session? name = some session →
    session.opening = engine.opening ∧
    ∃ family, engine.catalog.get? session.family = some family ∧ family.controls ≠ [] ∧
      session.edits.map Edit.control = family.controls

theorem faithful_start (catalog : Catalog) (opening : Opening) :
    (Engine.start catalog opening).Faithful := by
  intro name session hopen
  cases hopen

theorem Engine.Faithful.step {engine : Engine} (faithful : engine.Faithful) (command : Command)
    (world : World) : (perform (engine.step command) world).1.2.Faithful := by
  intro name session hopen
  obtain ⟨hcatalog, hopening⟩ := step_keeps_catalog engine command world
  rw [hcatalog, hopening]
  rcases session?_after engine command world hopen with
    ⟨earlier, hbefore, hframe⟩ | ⟨id, coordinator, family, -, -, hopenable, rfl⟩
  · rw [hframe.opening, hframe.family, hframe.controls]
    exact faithful name earlier hbefore
  · obtain ⟨hfound, -, hcontrols⟩ := hopenable.catalogued
    exact ⟨rfl, family, hfound, hcontrols, control_captureEdits _ _ _⟩

theorem Engine.Faithful.run {engine : Engine} (faithful : engine.Faithful)
    (commands : List Command) (world : World) :
    (perform (engine.run commands) world).1.2.Faithful := by
  induction commands generalizing engine world with
  | nil => exact faithful
  | cons command rest ih =>
      rw [engine.run_cons]
      exact ih (faithful.step command world) _

section Lawful

variable [LawfulBackend World Place]

/-- The edits that an opening captures from what can be seen. -/
def Scene.capture (seen : Scene Place) (opening : Opening) (controls : List Control) : List Edit :=
  controls.map fun control => ⟨control, seen.value opening control, seen.value opening control⟩

omit [DecidableEq Place] [NodeAccess (StateM World)] [PreferenceAccess (StateM World)]
  [LawfulBackend World Place] in
@[simp] theorem Scene.control_capture (seen : Scene Place) (opening : Opening)
    (controls : List Control) : (seen.capture opening controls).map Edit.control = controls := by
  unfold capture
  rw [List.map_map]
  exact List.map_id _

/-- On a lawful backend a session captures what can be seen when it is opened. -/
theorem session?_step (engine : Engine) (command : Command) (world : World) {name : String}
    {session : Session}
    (hopen : (perform (engine.step command) world).1.2.session? name = some session) :
    (∃ earlier, engine.session? name = some earlier ∧ session.SameFrame earlier) ∨
    (∃ id coordinator family, command = .openSession name id coordinator ∧
      engine.session? name = none ∧ engine.Openable world id family ∧
      session = engine.newSession family (coordinator.getD (.shared id))
        ((scene world).capture engine.opening family.controls)) := by
  refine (session?_after engine command world hopen).imp_right ?_
  rintro ⟨id, coordinator, family, hcommand, hfree, hopenable, hsession⟩
  refine ⟨id, coordinator, family, hcommand, hfree, hopenable, ?_⟩
  rw [hsession, answer_captureEdits, OnlyLooks.isSupported family world]
  rfl

end Lawful

/-! ## What giving up writes -/

@[simp] theorem Session.control_reverted (session : Session) :
    session.reverted.map Edit.control = session.edits.map Edit.control := by
  unfold reverted
  rw [List.map_map]
  rfl

theorem Session.reverted_eq (session : Session) : session.reverted =
    List.zipWith (fun control captured => Edit.mk control captured captured)
      (session.edits.map Edit.control) (session.edits.map Edit.captured) := by
  rw [List.zipWith_map, List.zipWith_self]
  rfl

/-- A session that captured what a scene had saved writes that when it is given up. -/
theorem Session.reverted_eq_capture {Place : Type} {session : Session} {seen : Scene Place}
    {opening : Opening} {controls : List Control}
    (hcontrols : session.edits.map Edit.control = controls)
    (hcaptured : session.edits.map Edit.captured = controls.map (seen.value opening)) :
    session.reverted = seen.capture opening controls := by
  rw [session.reverted_eq, hcontrols, hcaptured, List.zipWith_map_right, List.zipWith_self]
  rfl

/-! ## Nodes after a command -/

namespace Engine

/-- The edits whose values a command puts on the nodes. -/
def shows (engine : Engine) : Command → List Edit
  | .setLive name control value =>
    match engine.session? name with
    | some session => ((session.edit? control).map fun edit => edit.preview value).toList
    | none => []
  | .resetSession name =>
    match engine.session? name with
    | some session => session.previewDefaults.edits
    | none => []
  | .cancel name | .drop name =>
    match engine.session? name with
    | some session => if engine.isLastOut session then session.reverted else []
    | none => []
  | _ => []

/-- Whether no write and no saving that a command on a session makes is refused. -/
def goesWell (engine : Engine) (world : World) : Command → Bool
  | .setLive name control value =>
    match (perform (engine.setLive name control value) world).1.1 with
    | .error (.node _) => false
    | _ => true
  | .resetSession name =>
    match (perform (engine.resetSession name) world).1.1 with
    | .ok failed => failed.isEmpty
    | .error _ => true
  | .commit name =>
    match (perform (engine.closeSession name true) world).1.1 with
    | .ok closing => closing.isClean
    | .error _ => true
  | .cancel name | .drop name =>
    match (perform (engine.closeSession name false) world).1.1 with
    | .ok closing => closing.isClean
    | .error _ => true
  | _ => true

end Engine

/-- Whether a command saves nothing and writes nodes through sessions only. -/
def Command.previews : Command → Bool
  | .commit _ | .applyDirect .. | .writeLine .. | .restore _ | .restoreFamily _ => false
  | _ => true

variable [LawfulBackend World Place]

/-- Giving a session up writes its captured values if it is the last one out, and nothing
otherwise. -/
theorem writes_giveUp (engine : Engine) (name : String) (world : World) :
    Writes ((engine.shows (.cancel name)).map Edit.node)
      (engine.goesWell world (.cancel name) = true)
      (scene world) (scene (perform (engine.closeSession name false) world).2) := by
  cases hopen : engine.session? name with
  | none =>
      have hshows : engine.shows (.cancel name) = [] := by simp only [Engine.shows, hopen]
      rw [hshows, engine.closeSession_none world hopen]
      exact .nil _
  | some session =>
      have hshows : engine.shows (.cancel name) =
          if engine.isLastOut session then session.reverted else [] := by
        simp only [Engine.shows, hopen]
      have hrun := engine.closeSession_some world hopen false
      rw [hshows, hrun]
      cases hlast : engine.isLastOut session with
      | false => exact .nil _
      | true =>
          -- A close is clean when the batch of the last one out has no failures.
          refine (writes_writeEdits world session.reverted).of_imp fun hwell => ?_
          unfold Engine.goesWell at hwell
          simp only [hrun, hlast] at hwell
          exact List.isEmpty_iff.mp hwell

theorem writes_setLive (engine : Engine) (name control : String) (value : Int64) (world : World) :
    Writes ((engine.shows (.setLive name control value)).map Edit.node)
      (engine.goesWell world (.setLive name control value) = true)
      (scene world) (scene (perform (engine.setLive name control value) world).2) := by
  cases hopen : engine.session? name with
  | none =>
      have hshows : engine.shows (.setLive name control value) = [] := by
        simp only [Engine.shows, hopen]
      rw [hshows, engine.setLive_none world hopen]
      exact .nil _
  | some session =>
      have hshows : engine.shows (.setLive name control value) =
          ((session.edit? control).map fun edit => edit.preview value).toList := by
        simp only [Engine.shows, hopen]
      rw [hshows]
      cases hknown : session.edit? control with
      | none =>
          rw [engine.setLive_unknown world hopen hknown]
          exact .nil _
      | some edit =>
          have hrun := engine.setLive_known world hopen hknown value
          rw [hrun]
          refine (Writes.node (edit.preview value).node.1 (edit.preview value).node.2 world).of_imp
            fun hwell => ?_
          show (perform (edit.preview value).writeCurrent world).1 = .ok ()
          cases hresult : (perform (edit.preview value).writeCurrent world).1 with
          | ok done => rfl
          | error error =>
              -- The node refused, and the command said so.
              unfold Engine.goesWell at hwell
              simp only [hrun, hresult, Except.mapError] at hwell
              cases hwell

theorem writes_resetSession (engine : Engine) (name : String) (world : World) :
    Writes ((engine.shows (.resetSession name)).map Edit.node)
      (engine.goesWell world (.resetSession name) = true)
      (scene world) (scene (perform (engine.resetSession name) world).2) := by
  cases hopen : engine.session? name with
  | none =>
      have hshows : engine.shows (.resetSession name) = [] := by simp only [Engine.shows, hopen]
      rw [hshows, engine.resetSession_none world hopen]
      exact .nil _
  | some session =>
      have hshows : engine.shows (.resetSession name) = session.previewDefaults.edits := by
        simp only [Engine.shows, hopen]
      have hrun := engine.resetSession_some world hopen
      rw [hshows, hrun]
      refine (writes_writeEdits world session.previewDefaults.edits).of_imp fun hwell => ?_
      unfold Engine.goesWell at hwell
      simp only [hrun] at hwell
      exact List.isEmpty_iff.mp hwell

/-- A command that saves nothing does to the nodes what a batch of the edits it shows does. -/
theorem writes_step (engine : Engine) {command : Command} (hpreviews : command.previews = true)
    (world : World) :
    Writes ((engine.shows command).map Edit.node) (engine.goesWell world command = true)
      (scene world) (scene (perform (engine.step command) world).2) := by
  by_cases hasks : command.asks = true
  · rw [(step_of_asks engine world hasks).2]
    cases command <;> first | exact .nil _ | cases hasks
  cases command with
  | openSession name id coordinator =>
      rw [engine.step_openSession]
      rcases engine.openSession_cases world name id coordinator with
        ⟨error, after, hrun, rfl | ⟨family, rfl⟩⟩ | ⟨family, -, -, hrun⟩
      · rw [hrun]
        exact .nil _
      · rw [hrun, OnlyLooks.isSupported family world]
        exact .nil _
      · simp only [hrun, OnlyLooks.captureEdits engine.opening family.controls _,
          OnlyLooks.isSupported family world]
        exact .nil _
  | setLive name control value => exact writes_setLive engine name control value world
  | resetSession name => exact writes_resetSession engine name world
  | cancel name => exact writes_giveUp engine name world
  | drop name => exact writes_giveUp engine name world
  | openTicket => exact .nil _
  | closeTicket => exact .nil _
  | commit | applyDirect | writeLine | restore | restoreFamily => cases hpreviews
  | _ => exact absurd rfl hasks

end KernelControls
