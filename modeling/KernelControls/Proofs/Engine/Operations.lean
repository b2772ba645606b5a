import KernelControls.Engine.Command

/-!
# What each operation of the engine can do

The operations on sessions are short programs over whatever gives access to nodes and
preferences.  On a state they become functions, and each of them has few ways to go: it is
refused and nothing of the engine changes, or it is carried out on the session that its name
finds.  The equations here say both, so that no later proof unfolds an operation.

Commands that only ask leave the engine as it is; `step_asking` says so for all of them.
-/

namespace KernelControls

/-- What an action gives on a world, and the world after it. -/
abbrev perform {World Value : Type} (action : StateM World Value) (world : World) :
    Value × World :=
  action world

theorem perform_bind {World Value Other : Type} (action : StateM World Value)
    (rest : Value → StateM World Other) (world : World) :
    perform (action >>= rest) world =
      perform (rest (perform action world).1) (perform action world).2 := rfl

variable {World : Type} [NodeAccess (StateM World)] [PreferenceAccess (StateM World)]

namespace Engine

variable (engine : Engine) (world : World) {name : String} {session : Session}

/-! ## Opening -/

/-- The session that an opening makes. -/
def newSession (family : Family) (counted : CoordinatorName) (edits : List Edit) : Session where
  family := family.id
  opening := engine.opening
  coordinator := counted
  ticket := ⟨counted⟩
  edits := edits

/-- The engine after a session was opened and counted. -/
def withSession (name : String) (session : Session) : Engine :=
  { engine with
    coordinators := (engine.coordinators.issue session.coordinator).2
    sessions := Association.put name session engine.sessions }

/-- A family that a session can be opened on: known, edited in sessions, and supported by the
nodes as they are. -/
structure Openable (id : String) (family : Family) : Prop where
  known : engine.family id = .ok family
  mode : family.mode = .session
  supported : (perform family.isSupported world).1 = true

omit [NodeAccess (StateM World)] [PreferenceAccess (StateM World)] in
theorem get?_of_family {id : String} {family : Family} (hknown : engine.family id = .ok family) :
    engine.catalog.get? family.id = some family ∧ family.id = id := by
  have hfound : engine.catalog.get? id = some family := by
    unfold Engine.family at hknown
    split at hknown
    · next found hfound => rw [hfound, Except.ok.inj hknown]
    · cases hknown
  have hid : family.id = id := by
    simpa using List.find?_some hfound
  exact ⟨hid ▸ hfound, hid⟩

omit [PreferenceAccess (StateM World)] in
/-- A family that a session can be opened on is in the catalog and has controls. -/
theorem Openable.catalogued {engine : Engine} {world : World} {id : String}
    {family : Family} (openable : engine.Openable world id family) :
    engine.catalog.get? family.id = some family ∧ family.id = id ∧ family.controls ≠ [] := by
  obtain ⟨hfound, hid⟩ := engine.get?_of_family openable.known
  refine ⟨hfound, hid, fun hempty => ?_⟩
  have hsupported : (!family.controls.isEmpty &&
      (perform family.missing world).1.isEmpty) = true := openable.supported
  rw [hempty] at hsupported
  cases hsupported

/-- An opening of an openable family under a name that no session has captures its controls. -/
theorem openSession_openable {id : String} {family : Family} (hfree : engine.session? name = none)
    (openable : engine.Openable world id family) (coordinator : Option CoordinatorName) :
    let looked := (perform family.isSupported world).2
    let captured := perform (captureEdits engine.opening family.controls) looked
    perform (engine.openSession name id coordinator) world =
      ((.ok family.id, engine.withSession name
        (engine.newSession family (coordinator.getD (.shared id)) captured.1)), captured.2) := by
  unfold openSession
  simp only [hfree, openable.known, requireMode, openable.mode, if_pos]
  show (if (perform family.isSupported world).1 = true then _ else _ : StateM World _) _ = _
  rw [if_pos openable.supported]
  rfl

/-- An opening is refused, with no more than a look at the nodes, or it captures the controls
of an openable family under a name that no session has. -/
theorem openSession_cases (name id : String) (coordinator : Option CoordinatorName) :
    (∃ error after, perform (engine.openSession name id coordinator) world =
        ((.error error, engine), after) ∧
      (after = world ∨ ∃ family : Family,
        after = (perform family.isSupported world).2)) ∨
    (∃ family, engine.session? name = none ∧ engine.Openable world id family ∧
      let looked := (perform family.isSupported world).2
      let captured := perform (captureEdits engine.opening family.controls) looked
      perform (engine.openSession name id coordinator) world =
        ((.ok family.id, engine.withSession name
          (engine.newSession family (coordinator.getD (.shared id)) captured.1)), captured.2)) := by
  cases hname : engine.session? name with
  | some session =>
      -- The checks in their order: the name, the family, its mode, its nodes.
      refine .inl ⟨.sessionInUse, world, ?_, .inl rfl⟩
      unfold openSession
      rw [hname]
      rfl
  | none =>
      cases hfamily : engine.family id with
      | error error =>
          refine .inl ⟨error, world, ?_, .inl rfl⟩
          unfold openSession
          simp only [hname, hfamily]
          rfl
      | ok family =>
          by_cases hmode : family.mode = .session
          · cases hsupported : (perform family.isSupported world).1 with
            | true =>
                have openable : engine.Openable world id family := ⟨hfamily, hmode, hsupported⟩
                exact .inr ⟨family, rfl, openable,
                  engine.openSession_openable world hname openable coordinator⟩
            | false =>
                refine .inl ⟨.unsupported id, _, ?_, .inr ⟨family, rfl⟩⟩
                unfold openSession
                simp only [hname, hfamily, requireMode, hmode, if_pos]
                show (if (perform family.isSupported world).1 = true then _ else _ :
                  StateM World _) _ = _
                rw [if_neg (by simp [hsupported])]
                rfl
          · refine .inl ⟨.wrongMode family.id family.mode, _, ?_, .inl rfl⟩
            unfold openSession
            simp only [hname, hfamily, requireMode, if_neg hmode]
            rfl

/-! ## Editing -/

section Editing

omit [PreferenceAccess (StateM World)]

theorem setLive_none (hnone : engine.session? name = none) (control : String) (value : Int64) :
    perform (engine.setLive name control value) world = ((.error .noSession, engine), world) := by
  unfold setLive
  rw [hnone]
  rfl

theorem setLive_unknown (hopen : engine.session? name = some session) {control : String}
    (hunknown : session.edit? control = none) (value : Int64) :
    perform (engine.setLive name control value) world =
      ((.error (.unknownControl session.family control), engine), world) := by
  unfold setLive
  rw [hopen]
  simp only [hunknown]
  rfl

theorem setLive_known (hopen : engine.session? name = some session) {control : String}
    {edit : Edit} (hknown : session.edit? control = some edit) (value : Int64) :
    let written := perform (edit.preview value).writeCurrent world
    perform (engine.setLive name control value) world =
      ((written.1.mapError .node, engine.putSession name (session.preview control value)),
        written.2) := by
  unfold setLive
  rw [hopen]
  simp only [hknown]
  rw [perform_bind]
  cases (perform (edit.preview value).writeCurrent world).1 <;> rfl

theorem resetSession_none (hnone : engine.session? name = none) :
    perform (engine.resetSession name) world = ((.error .noSession, engine), world) := by
  unfold resetSession
  rw [hnone]
  rfl

theorem resetSession_some (hopen : engine.session? name = some session) :
    let written := perform (writeEdits session.previewDefaults.edits) world
    perform (engine.resetSession name) world =
      ((.ok written.1, engine.putSession name session.previewDefaults), written.2) := by
  unfold resetSession
  rw [hopen]
  rfl

end Editing

/-! ## Ending -/

/-- The engine after the session of a name gave its ticket back. -/
def withoutSession (name : String) (session : Session) : Engine :=
  { engine with
    coordinators := (engine.coordinators.close session.coordinator session.ticket).2
    sessions := Association.drop name engine.sessions }

/-- Whether a session is the last one out if it ends now. -/
def isLastOut (session : Session) : Bool :=
  (engine.coordinators.close session.coordinator session.ticket).1

theorem closeSession_none (hnone : engine.session? name = none) (accepted : Bool) :
    perform (engine.closeSession name accepted) world = ((.error .noSession, engine), world) := by
  unfold closeSession
  rw [hnone]
  rfl

theorem closeSession_some (hopen : engine.session? name = some session) (accepted : Bool) :
    let finished := perform (session.finish accepted (engine.isLastOut session)) world
    perform (engine.closeSession name accepted) world =
      ((.ok finished.1, engine.withoutSession name session), finished.2) := by
  unfold closeSession
  rw [hopen]
  rfl

/-- Committing a session saves its edits and does nothing else. -/
theorem commit_some (hopen : engine.session? name = some session) :
    let saved := perform (saveEdits session.opening session.edits) world
    perform (engine.closeSession name true) world =
      ((.ok ⟨.committed, saved.1⟩, engine.withoutSession name session), saved.2) := by
  rw [engine.closeSession_some world hopen]
  rfl

/-! ## Looking a session up after an operation -/

@[simp] theorem session?_withSession (other : String) :
    (engine.withSession name session).session? other =
      if other = name then some session else engine.session? other :=
  Association.lookup_put name other session engine.sessions

@[simp] theorem session?_putSession (other : String) :
    (engine.putSession name session).session? other =
      if other = name then some session else engine.session? other :=
  Association.lookup_put name other session engine.sessions

@[simp] theorem session?_withoutSession (other : String) :
    (engine.withoutSession name session).session? other =
      if other = name then none else engine.session? other :=
  Association.lookup_drop name other engine.sessions

@[simp] theorem tickets_withSession : (engine.withSession name session).tickets = engine.tickets :=
  rfl

@[simp] theorem tickets_withoutSession :
    (engine.withoutSession name session).tickets = engine.tickets := rfl

/-- After a close no session of its name is open, and the others are as they were. -/
@[simp] theorem session?_closeSession (accepted : Bool) (other : String) :
    (perform (engine.closeSession name accepted) world).1.2.session? other =
      if other = name then none else engine.session? other := by
  cases hopen : engine.session? name with
  | none =>
      rw [engine.closeSession_none world hopen]
      split
      · next hsame => rw [hsame]; exact hopen
      · rfl
  | some session =>
      rw [engine.closeSession_some world hopen]
      exact engine.session?_withoutSession other

theorem session?_of_closeSession {accepted : Bool} {other : String} {found : Session}
    (hfound : (perform (engine.closeSession name accepted) world).1.2.session? other = some found) :
    engine.session? other = some found := by
  rw [session?_closeSession] at hfound
  split at hfound
  · cases hfound
  · exact hfound

theorem closeSession_keeps_catalog (accepted : Bool) :
    let closed := (perform (engine.closeSession name accepted) world).1.2
    closed.catalog = engine.catalog ∧ closed.opening = engine.opening := by
  cases hopen : engine.session? name with
  | none => rw [engine.closeSession_none world hopen]; exact ⟨rfl, rfl⟩
  | some session => rw [engine.closeSession_some world hopen]; exact ⟨rfl, rfl⟩

/-! ## Saved values -/

theorem savedValue_known {m : Type → Type} [Monad m] [PreferenceAccess m] (engine : Engine)
    {id name : String} {family : Family} {control : Control}
    (hfamily : engine.catalog.get? id = some family)
    (hcontrol : family.control? name = some control) : engine.savedValue id name =
      (do
        let value ← control.saved engine.opening
        pure (.ok value) : m (Except EngineError Int64)) := by
  have hfound : (engine.family id >>= fun known => Engine.control known name) = .ok control := by
    unfold Engine.family
    rw [hfamily]
    show Engine.control family name = .ok control
    unfold Engine.control
    rw [hcontrol]
  unfold Engine.savedValue
  rw [hfound]

/-! ## Direct settings -/

section Direct

/-- The control that a direct setting is about, unless a check refuses it. -/
def directControl (id name : String) : Except EngineError (Family × Control) := do
  let family ← engine.family id
  requireMode family .direct
  let control ← control family name
  pure (family, control)

variable {family : Family} {control : Control} {error : EngineError}

omit [NodeAccess (StateM World)] [PreferenceAccess (StateM World)] in
theorem directControl_eq_ok {id name : String}
    (hfound : engine.directControl id name = .ok (family, control)) :
    engine.family id = .ok family ∧ family.mode = .direct ∧
      family.control? name = some control := by
  unfold directControl at hfound
  cases hfamily : engine.family id with
  | error error =>
      rw [hfamily] at hfound
      cases hfound
  | ok known =>
      have hchecks : (do
          requireMode known .direct
          let control ← Engine.control known name
          pure (known, control)) = Except.ok (family, control) := by
        rw [hfamily] at hfound
        exact hfound
      unfold requireMode Engine.control at hchecks
      by_cases hmode : known.mode = .direct
      · rw [if_pos hmode] at hchecks
        cases hnamed : known.control? name with
        | none => rw [hnamed] at hchecks; cases hchecks
        | some found => rw [hnamed] at hchecks; cases hchecks; exact ⟨rfl, hmode, hnamed⟩
      · rw [if_neg hmode] at hchecks
        cases hchecks

theorem applyDirect_refused {id name : String} (value : Int64)
    (hrefused : engine.directControl id name = .error error) :
    perform (engine.applyDirect id name value) world = (.error error, world) := by
  unfold directControl at hrefused
  unfold applyDirect
  simp only [hrefused]
  rfl

theorem applyDirect_unsupported {id name : String} (value : Int64)
    (hfound : engine.directControl id name = .ok (family, control))
    (hsupported : (perform family.isSupported world).1 = false) :
    perform (engine.applyDirect id name value) world =
      (.error (.unsupported family.id), (perform family.isSupported world).2) := by
  unfold directControl at hfound
  unfold applyDirect
  simp only [hfound]
  rw [perform_bind, hsupported]
  rfl

/-- A direct setting on a supported family writes the node and then saves the value, whether the
node took it or not. -/
theorem applyDirect_supported {id name : String} (value : Int64)
    (hfound : engine.directControl id name = .ok (family, control))
    (hsupported : (perform family.isSupported world).1 = true) :
    let written := perform (control.write value) (perform family.isSupported world).2
    let saved := perform (PreferenceAccess.save engine.opening control.key value) written.2
    perform (engine.applyDirect id name value) world =
      ((saved.1.mapError .store).map fun _ => written.1.isOk, saved.2) := by
  intro written saved
  unfold directControl at hfound
  unfold applyDirect
  simp only [hfound]
  rw [perform_bind, hsupported, if_pos rfl, perform_bind, perform_bind]
  cases saved.1 <;> rfl

end Direct

/-! ## Asking -/

/-- Whether a command leaves sessions, coordinators and kept tickets alone, whatever it does to
nodes and preferences. -/
def leavesEngine : Command → Bool
  | .openSession .. | .setLive .. | .resetSession .. | .commit .. | .cancel .. | .drop ..
  | .openTicket .. | .closeTicket .. => false
  | _ => true

theorem step_of_leavesEngine {command : Command} (h : leavesEngine command = true) :
    (perform (engine.step command) world).1.2 = engine := by
  cases command
  case listMissing id => simp only [step]; cases engine.family id <;> rfl
  case showSession session => simp only [step]; cases engine.session? session <;> rfl
  case showControl session control => simp only [step]; cases engine.session? session <;> rfl
  all_goals first | rfl | cases h

/-! ## Tickets shown elsewhere -/

theorem session?_closeTicket (coordinator : CoordinatorName) (other : String) :
    (engine.closeTicket name coordinator).2.session? other = engine.session? other := by
  unfold closeTicket
  cases engine.tickets.lookup name <;> rfl

/-- Showing a ticket to one coordinator changes no other count. -/
theorem openCount_closeTicket {coordinator other : CoordinatorName} (hother : other ≠ coordinator) :
    (engine.closeTicket name coordinator).2.coordinators.openCount other =
      engine.coordinators.openCount other := by
  unfold closeTicket
  cases engine.tickets.lookup name with
  | none => rfl
  | some held =>
      show (engine.coordinators.close coordinator held).2.openCount other = _
      unfold Coordinators.close
      split
      · rfl
      · split
        · rfl
        · simp [hother]

/-! ## Commands that change sessions -/

theorem step_openSession (name id : String) (coordinator : Option CoordinatorName) :
    let opened := perform (engine.openSession name id coordinator) world
    perform (engine.step (.openSession name id coordinator)) world =
      ((.ofResult .text opened.1.1, opened.1.2), opened.2) := rfl

theorem step_setLive (name control : String) (value : Int64) :
    let shown := perform (engine.setLive name control value) world
    perform (engine.step (.setLive name control value)) world =
      ((.ofResult (fun _ => .done) shown.1.1, shown.1.2), shown.2) := rfl

theorem step_resetSession (name : String) :
    let shown := perform (engine.resetSession name) world
    perform (engine.step (.resetSession name)) world =
      ((.ofResult .texts shown.1.1, shown.1.2), shown.2) := rfl

theorem step_commit (name : String) :
    let closed := perform (engine.closeSession name true) world
    perform (engine.step (.commit name)) world =
      ((.ofResult .closed closed.1.1, closed.1.2), closed.2) := rfl

theorem run_cons (command : Command) (commands : List Command) :
    let first := perform (engine.step command) world
    let rest := perform (first.1.2.run commands) first.2
    perform (engine.run (command :: commands)) world =
      ((first.1.1 :: rest.1.1, rest.1.2), rest.2) := rfl

/-- A run goes on where an earlier one stopped. -/
theorem run_append (earlier later : List Command) :
    let before := perform (engine.run earlier) world
    let after := perform (before.1.2.run later) before.2
    perform (engine.run (earlier ++ later)) world =
      ((before.1.1 ++ after.1.1, after.1.2), after.2) := by
  induction earlier generalizing engine world with
  | nil => rfl
  | cons command rest ih =>
      have hrest := ih (perform (engine.step command) world).1.2
        (perform (engine.step command) world).2
      rw [List.cons_append, run_cons, run_cons]
      simp only [hrest]
      rfl

/-- Engine and world after a run. -/
def reach (first : Engine) (commands : List Command) (world : World) : Engine × World :=
  let ran := perform (first.run commands) world
  (ran.1.2, ran.2)

theorem reach_append (first : Engine) (earlier later : List Command) (world : World) :
    first.reach (earlier ++ later) world =
      (first.reach earlier world).1.reach later (first.reach earlier world).2 := by
  unfold reach
  rw [first.run_append]

end Engine

end KernelControls
