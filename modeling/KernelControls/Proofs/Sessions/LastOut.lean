import KernelControls.Proofs.Sessions.Editor
import KernelControls.Proofs.Backends.Recording
import Mathlib.Data.List.Induction

/-!
# Only the last one out touches the nodes

However sessions of whatever families overlap, on whatever coordinators and with kept tickets in
between: a commit writes no node, and a session that is given up writes nodes only if no other
ticket of its coordinator is unclosed.  Then it writes, for each control of its family in order,
the text of the value that was captured when it was opened, and otherwise it does nothing at all.

## Strategy

Every open session stems from an opening in the run, with what was captured there:
`stemsFrom_of_run`, by induction on the run from its end.  What an ending attempts is read off its
record.  The accounts of the tickets turn the coordinator's number into the sessions and keepers
that are really there (`isLastOut_iff_alone`), so that the decision is about them.
-/

namespace KernelControls

/-! ## Where sessions come from -/

/-- Whether a command ends the session of a name. -/
def Command.ends (name : String) : Command → Bool
  | .commit other | .cancel other | .drop other => other = name
  | _ => false

section Origins

variable {World : Type} [NodeAccess (StateM World)] [PreferenceAccess (StateM World)]

/-- A session, as it was edited since, that was opened on an engine.  What it captured are the
answers that the store gave then. -/
structure Session.OpenedOn (session : Session) (engine : Engine) (world : World) (name id : String)
    (coordinator : Option CoordinatorName) (family : Family) (captured : List Edit) : Prop where
  free : engine.session? name = none
  openable : engine.Openable world id family
  answers : captured = (perform (captureEdits engine.opening family.controls)
    (perform family.isSupported world).2).1
  frame : session.SameFrame
    (engine.newSession family (coordinator.getD (.shared id)) captured)

/-- A session stems from a run when a command of the run opened it and no later one ended it. -/
def Session.StemsFrom (session : Session) (name : String) (first : Engine)
    (commands : List Command) (world : World) (family : Family) (captured : List Edit) : Prop :=
  ∃ before id coordinator later,
    commands = before ++ .openSession name id coordinator :: later ∧
    (∀ command ∈ later, command.ends name = false) ∧
    let ran := perform (first.run before) world
    session.OpenedOn ran.1.2 ran.2 name id coordinator family captured

theorem Session.SameFrame.trans {session middle other : Session}
    (hfirst : session.SameFrame middle) (hsecond : middle.SameFrame other) :
    session.SameFrame other where
  family := hfirst.family.trans hsecond.family
  opening := hfirst.opening.trans hsecond.opening
  coordinator := hfirst.coordinator.trans hsecond.coordinator
  ticket := hfirst.ticket.trans hsecond.ticket
  controls := hfirst.controls.trans hsecond.controls
  captured := hfirst.captured.trans hsecond.captured

theorem session?_of_ends {engine : Engine} {command : Command} {name : String}
    (hends : command.ends name = true) (world : World) :
    (perform (engine.step command) world).1.2.session? name = none := by
  -- Whichever way a session is closed, its name is free afterwards.
  have hclosed : ∀ accepted,
      (perform (engine.closeSession name accepted) world).1.2.session? name = none := by
    intro accepted
    simp
  cases command with
  | commit other =>
      obtain rfl : other = name := of_decide_eq_true hends
      exact hclosed true
  | cancel other | drop other =>
      obtain rfl : other = name := of_decide_eq_true hends
      exact hclosed false
  | _ => cases hends

/-- Every session that is open after a run stems from it. -/
theorem stemsFrom_of_run {first : Engine} (hfree : ∀ name, first.session? name = none)
    (commands : List Command) (world : World) {name : String} {session : Session}
    (hopen : (perform (first.run commands) world).1.2.session? name = some session) :
    ∃ family captured, session.StemsFrom name first commands world family captured := by
  induction commands using List.reverseRecOn generalizing session with
  | nil =>
      rw [show (perform (first.run []) world).1.2 = first from rfl, hfree] at hopen
      cases hopen
  | append_singleton before command ih =>
      let ran := perform (first.run before) world
      have hlast : (perform (first.run (before ++ [command])) world).1.2 =
          (perform (ran.1.2.step command) ran.2).1.2 := by
        rw [first.run_append]
        rfl
      rw [hlast] at hopen
      rcases session?_after ran.1.2 command ran.2 hopen with
        ⟨earlier, hbefore, hframe⟩ | ⟨id, coordinator, family, hcommand, hname, hopenable, hnew⟩
      · -- It was open before the last command, which therefore did not end it.
        obtain ⟨family, captured, start, id, coordinator, later, hsplit, hkept, hopened⟩ :=
          ih hbefore
        refine ⟨family, captured, start, id, coordinator, later ++ [command], ?_, ?_,
          hopened.free, hopened.openable, hopened.answers, hframe.trans hopened.frame⟩
        · rw [hsplit, List.append_assoc, List.cons_append]
        · intro other hother
          rcases List.mem_append.mp hother with hlater | hcommand
          · exact hkept other hlater
          · obtain rfl := List.mem_singleton.mp hcommand
            refine Bool.eq_false_iff.mpr fun hends => ?_
            rw [session?_of_ends hends] at hopen
            cases hopen
      · -- The last command opened it.
        refine ⟨family, _, before, id, coordinator, [], by rw [hcommand], ?_, hname, hopenable,
          rfl, ?_⟩
        · intro other hother
          cases hother
        · rw [hnew]
          exact .refl _

/-! ## What is captured -/

/-- The node of an edit with the text of its captured value. -/
def Edit.capturedNode (edit : Edit) : String × String :=
  (edit.control.path, edit.control.codec.encode edit.captured)

theorem Session.node_reverted (session : Session) :
    session.reverted.map Edit.node = session.edits.map Edit.capturedNode := by
  unfold reverted
  rw [List.map_map]
  rfl

namespace Session.OpenedOn

variable {session : Session} {engine : Engine} {world : World} {name id : String}
  {coordinator : Option CoordinatorName} {family : Family} {captured : List Edit}
  (opened : session.OpenedOn engine world name id coordinator family captured)

include opened

theorem controls : captured.map Edit.control = family.controls := by
  rw [opened.answers]
  exact control_captureEdits _ _ _

/-- A family without controls is never supported, so there is something to capture. -/
theorem captured_ne_nil : captured ≠ [] := by
  intro hnone
  have hcontrols : family.controls = [] := by
    rw [← opened.controls, hnone]
    rfl
  have hsupported : (!family.controls.isEmpty && _) = true := opened.openable.supported
  rw [hcontrols] at hsupported
  cases hsupported

/-- Giving the session up writes what was captured for it, whatever it previewed since. -/
theorem node_reverted : session.reverted.map Edit.node = captured.map Edit.capturedNode := by
  let fresh := engine.newSession family (coordinator.getD (.shared id)) captured
  calc session.reverted.map Edit.node
      = fresh.reverted.map Edit.node := by
        rw [session.reverted_eq, fresh.reverted_eq, opened.frame.controls, opened.frame.captured]
    _ = captured.map Edit.capturedNode := fresh.node_reverted

end Session.OpenedOn

end Origins

/-! ## Who is alone -/

/-- No ticket of a coordinator is unclosed beside that of a session. -/
def Ledger.Alone (ledger : Ledger) (name : String) (coordinator : CoordinatorName) : Prop :=
  ∀ entry ∈ ledger.settle (.session name), entry.issuer ≠ coordinator

variable {engine : Engine} {ledger : Ledger} {name : String} {session : Session}

theorem Accounts.isLastOut_iff_alone (accounts : Accounts engine ledger)
    (hopen : engine.session? name = some session) :
    engine.isLastOut session = true ↔ ledger.Alone name session.coordinator := by
  obtain ⟨hissuer, hexact⟩ := accounts.closesExactly_session hopen
  exact hexact.last.trans (and_iff_right hissuer)

/-! ## Endings on the record -/

variable {World : Type} [NodeAccess (StateM World)] [PreferenceAccess (StateM World)]
  (audited : Audited World)

/-- A commit attempts to save every control's value, and attempts no write. -/
theorem audited_commit (hopen : engine.session? name = some session) :
    let committed := perform (engine.closeSession name true) audited
    committed.2.writeRequests = audited.writeRequests ∧ committed.2.saveRequests =
      audited.saveRequests ++ session.edits.map fun edit => (edit.control.key, edit.current) := by
  rw [engine.commit_some audited hopen]
  exact ⟨Audited.writeRequests_saveEdits session.edits audited session.opening,
    Audited.saveRequests_saveEdits session.edits audited session.opening⟩

/-- The last one out attempts to write every captured value, and attempts no saving. -/
theorem audited_revert (hopen : engine.session? name = some session)
    (hlast : engine.isLastOut session = true) :
    let givenUp := perform (engine.closeSession name false) audited
    givenUp.2.writeRequests = audited.writeRequests ++ session.reverted.map Edit.node ∧
      givenUp.2.saveRequests = audited.saveRequests ∧
      ∃ failed, givenUp.1.1 = .ok ⟨.reverted, failed⟩ := by
  have hrun := engine.closeSession_some audited hopen false
  rw [hlast] at hrun
  intro givenUp
  rw [show givenUp = _ from hrun]
  exact ⟨Audited.writeRequests_writeEdits session.reverted audited,
    Audited.saveRequests_writeEdits session.reverted audited, _, rfl⟩

/-- Any other session that is given up leaves everything as it is. -/
theorem giveUp_of_not_last (world : World) (hopen : engine.session? name = some session)
    (hlast : engine.isLastOut session = false) :
    perform (engine.closeSession name false) world =
      ((.ok ⟨.revertSkipped, []⟩, engine.withoutSession name session), world) := by
  have hrun := engine.closeSession_some world hopen false
  rw [hlast] at hrun
  exact hrun

/-- What a close does is settled by the count of its own coordinator. -/
theorem closeSession_apart (world : World) (coordinators : Coordinators)
    (hopen : engine.session? name = some session)
    (hcount : coordinators.openCount session.coordinator =
      engine.coordinators.openCount session.coordinator) (accepted : Bool) :
    let apart : Engine := { engine with coordinators := coordinators }
    (perform (apart.closeSession name accepted) world).1.1 =
        (perform (engine.closeSession name accepted) world).1.1 ∧
      (perform (apart.closeSession name accepted) world).2 =
        (perform (engine.closeSession name accepted) world).2 := by
  intro apart
  have hlast : apart.isLastOut session = engine.isLastOut session := by
    show (coordinators.close session.coordinator session.ticket).1 =
      (engine.coordinators.close session.coordinator session.ticket).1
    -- Closing a ticket reads the count of its coordinator and nothing else.
    unfold Coordinators.close
    rw [hcount]
    split
    · rfl
    · cases engine.coordinators.openCount session.coordinator <;> rfl
  have hfound : apart.session? name = some session := hopen
  rw [apart.closeSession_some world hfound, engine.closeSession_some world hopen, hlast]
  exact ⟨rfl, rfl⟩

/-! ## Between two idle moments -/

/-- A session whose end attempts a write leaves its coordinator without an open ticket. -/
theorem Engine.Tidy.openCount_of_writes (tidy : engine.Tidy)
    (hopen : engine.session? name = some session) (accepted : Bool)
    (hwrites : (perform (engine.closeSession name accepted) audited).2.writeRequests ≠
      audited.writeRequests) :
    (perform (engine.closeSession name accepted) audited).1.2.coordinators.openCount
      session.coordinator = 0 := by
  cases accepted with
  | true => exact absurd (audited_commit audited hopen).1 hwrites
  | false =>
      cases hlast : engine.isLastOut session with
      | false =>
          rw [giveUp_of_not_last audited hopen hlast] at hwrites
          exact absurd rfl hwrites
      | true =>
          rw [engine.closeSession_some audited hopen]
          exact (tidy.isLastOut_iff hopen).mp hlast

theorem Engine.Tidy.run (tidy : engine.Tidy) (commands : List Command) (world : World) :
    (perform (engine.run commands) world).1.2.Tidy := by
  obtain ⟨ledger, accounts⟩ := tidy
  exact ⟨_, accounts_run commands accounts world⟩

/-- Commands after which a coordinator has open tickets at every point but at the end. -/
def Engine.IsEpisode (engine : Engine) (world : World) (coordinator : CoordinatorName)
    (episode : List Command) : Prop :=
  ∀ begun rest, episode = begun ++ rest → begun ≠ [] → rest ≠ [] →
    (perform (engine.run begun) world).1.2.coordinators.openCount coordinator ≠ 0

/-- It is enough to look at the beginnings by their lengths. -/
theorem Engine.isEpisode_iff_take {world : World} {coordinator : CoordinatorName}
    {episode : List Command} : engine.IsEpisode world coordinator episode ↔
      ∀ count < episode.length, count ≠ 0 →
        (perform (engine.run (episode.take count)) world).1.2.coordinators.openCount
          coordinator ≠ 0 := by
  constructor
  · intro hepisode count hcount hpositive
    have hbegun : (episode.take count).length = count :=
      List.length_take_of_le (Nat.le_of_lt hcount)
    refine hepisode _ _ (List.take_append_drop count episode).symm ?_ ?_
    · exact List.ne_nil_of_length_pos (by omega)
    · exact List.ne_nil_of_length_pos (by rw [List.length_drop]; omega)
  · rintro htaken begun rest rfl hbegun hrest
    have hpositive := List.length_pos_iff.mpr hbegun
    have hmore := List.length_pos_iff.mpr hrest
    have hcount := htaken begun.length (by rw [List.length_append]; omega) (by omega)
    rwa [List.take_left] at hcount

instance (world : World) (coordinator : CoordinatorName) (episode : List Command) :
    Decidable (engine.IsEpisode world coordinator episode) :=
  decidable_of_iff' _ Engine.isEpisode_iff_take

/-- In an episode only the command at its end can be an ending that attempts a write. -/
theorem Engine.IsEpisode.writes_ending {coordinator : CoordinatorName}
    {earlier later : List Command} {ending : Command}
    (episode : engine.IsEpisode audited coordinator (earlier ++ ending :: later))
    (tidy : engine.Tidy) (hlater : later ≠ []) (hends : ending.ends name = true) :
    let ran := perform (engine.run earlier) audited
    ran.1.2.session? name = some session → session.coordinator = coordinator →
    (perform (ran.1.2.step ending) ran.2).2.writeRequests = ran.2.writeRequests := by
  intro ran hfound hcoordinator
  have hcount := episode (earlier ++ [ending]) later
    (by rw [List.append_assoc, List.singleton_append]) (by simp) hlater
  rw [engine.run_append] at hcount
  -- An ending that writes leaves the count at zero, which inside an episode it never is.
  by_contra hwrites
  refine hcount ?_
  rw [← hcoordinator]
  have htidy : ran.1.2.Tidy := tidy.run earlier audited
  cases ending with
  | commit other =>
      obtain rfl : other = name := of_decide_eq_true hends
      exact htidy.openCount_of_writes ran.2 hfound true hwrites
  | cancel other | drop other =>
      obtain rfl : other = name := of_decide_eq_true hends
      exact htidy.openCount_of_writes ran.2 hfound false hwrites
  | _ => cases hends

/-! ## The law -/

/-- What a session that captured some values does when it ends. -/
structure EndsProperly (engine : Engine) (ledger : Ledger) (name : String) (session : Session)
    (captured : List Edit) (audited : Audited World) : Prop where
  /-- A commit writes no node, and saves each control's value. -/
  committed : let committed := perform (engine.closeSession name true) audited
    committed.2.writeRequests = audited.writeRequests ∧ committed.2.saveRequests =
      audited.saveRequests ++ session.edits.map fun edit => (edit.control.key, edit.current)
  /-- Giving up saves nothing. -/
  saves : (perform (engine.closeSession name false) audited).2.saveRequests = audited.saveRequests
  /-- Giving up attempts a write exactly when no other ticket is unclosed. -/
  attempts :
    (perform (engine.closeSession name false) audited).2.writeRequests ≠ audited.writeRequests ↔
      ledger.Alone name session.coordinator
  /-- Then it attempts to write every captured value once, in order. -/
  reverted : ledger.Alone name session.coordinator →
    let givenUp := perform (engine.closeSession name false) audited
    givenUp.2.writeRequests = audited.writeRequests ++ captured.map Edit.capturedNode ∧
      ∃ failed, givenUp.1.1 = .ok ⟨.reverted, failed⟩
  /-- Otherwise nothing happens, to nodes, store or record. -/
  skipped : ¬ ledger.Alone name session.coordinator →
    let givenUp := perform (engine.closeSession name false) audited
    givenUp.1.1 = .ok ⟨.revertSkipped, []⟩ ∧ givenUp.2 = audited
  /-- What other coordinators count makes no difference. -/
  apart : ∀ (coordinators : Coordinators) (accepted : Bool),
    coordinators.openCount session.coordinator =
      engine.coordinators.openCount session.coordinator →
    let apart : Engine := { engine with coordinators := coordinators }
    (perform (apart.closeSession name accepted) audited).1.1 =
        (perform (engine.closeSession name accepted) audited).1.1 ∧
      (perform (apart.closeSession name accepted) audited).2 =
        (perform (engine.closeSession name accepted) audited).2

theorem Accounts.endsProperly (accounts : Accounts engine ledger)
    (hopen : engine.session? name = some session) {captured : List Edit}
    (hcaptured : captured ≠ [])
    (hreverted : session.reverted.map Edit.node = captured.map Edit.capturedNode) :
    EndsProperly engine ledger name session captured audited := by
  have halone := accounts.isLastOut_iff_alone hopen
  have hnodes : captured.map Edit.capturedNode ≠ [] := fun h => hcaptured (List.map_eq_nil_iff.mp h)
  cases hlast : engine.isLastOut session with
  | true =>
      -- The last one out: something was captured, so something is written.
      obtain ⟨hwrites, hsaves, hending⟩ := audited_revert audited hopen hlast
      rw [hreverted] at hwrites
      have hself := halone.mp hlast
      exact {
        committed := audited_commit audited hopen
        saves := hsaves
        attempts := by
          rw [hwrites]
          exact iff_of_true (fun h => hnodes (List.append_right_eq_self.mp h)) hself
        reverted := fun _ => ⟨hwrites, hending⟩
        skipped := fun h => absurd hself h
        apart := fun coordinators accepted hcount =>
          closeSession_apart audited coordinators hopen hcount accepted }
  | false =>
      -- Another ticket is unclosed: nothing is written, and somebody else is on the ledger.
      have hrun := giveUp_of_not_last audited hopen hlast
      have hothers : ¬ ledger.Alone name session.coordinator := fun h => by
        rw [halone.mpr h] at hlast
        cases hlast
      exact {
        committed := audited_commit audited hopen
        saves := by rw [hrun]
        attempts := by
          rw [hrun]
          exact iff_of_false (fun h => h rfl) hothers
        reverted := fun h => absurd h hothers
        skipped := fun _ => by
          rw [hrun]
          exact ⟨rfl, rfl⟩
        apart := fun coordinators accepted hcount =>
          closeSession_apart audited coordinators hopen hcount accepted }

/-- **Only the last one out touches the nodes.**  Let an engine work through any commands on any
backend.  A session that is open then stems from an opening in the run, on a family whose
controls it captured, and it ends as `EndsProperly` says: the three commands that end it are a
commit and two ways of giving up.  Between two moments at which a coordinator has no open ticket,
no ending of its sessions attempts a write but the last one. -/
theorem only_last_out_writes (catalog : Catalog) (opening : Opening) (commands : List Command)
    (world : Audited World) :
    let first := Engine.start catalog opening
    let ran := perform (first.run commands) world
    let engine := ran.1.2
    let ledger := Ledger.afterAll [] commands ran.1.1
    (∀ name session, engine.session? name = some session →
      ∃ family captured, session.StemsFrom name first commands world family captured ∧
        captured.map Edit.control = family.controls ∧
        EndsProperly engine ledger name session captured ran.2) ∧
    (∀ name, let committed := perform (engine.closeSession name true) ran.2
      let givenUp := perform (engine.closeSession name false) ran.2
      perform (engine.step (.commit name)) ran.2 =
          ((.ofResult .closed committed.1.1, committed.1.2), committed.2) ∧
        perform (engine.step (.cancel name)) ran.2 =
          ((.ofResult .closed givenUp.1.1, givenUp.1.2), givenUp.2) ∧
        perform (engine.step (.drop name)) ran.2 =
          ((.ofDropped givenUp.1.1, givenUp.1.2), givenUp.2)) ∧
    ∀ coordinator earlier ending later,
      engine.IsEpisode ran.2 coordinator (earlier ++ ending :: later) → later ≠ [] →
      let reached := perform (engine.run earlier) ran.2
      ∀ name session, ending.ends name = true → reached.1.2.session? name = some session →
        session.coordinator = coordinator →
        (perform (reached.1.2.step ending) reached.2).2.writeRequests =
          reached.2.writeRequests := by
  intro first ran engine ledger
  have accounts : Accounts engine ledger :=
    accounts_run commands (.start catalog opening) world
  refine ⟨fun name session hopen => ?_, fun name => ⟨rfl, rfl, rfl⟩, ?_⟩
  · have hfree : ∀ other, first.session? other = none := fun _ => rfl
    obtain ⟨family, captured, hstems⟩ := stemsFrom_of_run hfree commands world hopen
    refine ⟨family, captured, hstems, ?_⟩
    obtain ⟨before, id, coordinator, later, -, -, hopened⟩ := hstems
    refine ⟨hopened.controls, ?_⟩
    exact accounts.endsProperly ran.2 hopen hopened.captured_ne_nil hopened.node_reverted
  · intro coordinator earlier ending later episode hlater reached name session hends hfound
      hcoordinator
    exact episode.writes_ending ran.2 ⟨ledger, accounts⟩ hlater hends hfound hcoordinator

/-- Two sessions overlap on a value that was committed before, with a kept ticket beside them.  The
first one that is given up attempts no write, though it has previewed a value. -/
theorem first_out_writes_nothing :
    let audited : Audited Bench :=
      { world := { nodes := [("/sys/class/timed_output/vibrator/pwm_value", "50")] } }
    let committed : List Command := [.openSession "early" "vibration" none,
      .setLive "early" "intensity" 20, .commit "early"]
    let earlier : List Command := [.openSession "first" "vibration" none,
      .openSession "second" "vibration" none, .openTicket "kept" (.shared "vibration"),
      .setLive "first" "intensity" 70]
    let later : List Command := [.closeTicket "kept" (.shared "vibration"), .drop "second"]
    let ran := perform ((Engine.start .builtin 0).run committed) audited
    let reached := perform (ran.1.2.run earlier) ran.2
    ran.1.2.IsEpisode ran.2 (.shared "vibration") (earlier ++ .cancel "first" :: later) ∧
      (reached.1.2.session? "first").map Session.coordinator = some (.shared "vibration") ∧
      (perform (reached.1.2.step (.cancel "first")) reached.2).2.writeRequests =
        reached.2.writeRequests ∧
      reached.2.writeRequests = [("/sys/class/timed_output/vibrator/pwm_value", "20"),
        ("/sys/class/timed_output/vibrator/pwm_value", "70")] := by
  intro audited committed earlier later ran reached
  have hepisode : ran.1.2.IsEpisode ran.2 (.shared "vibration")
      (earlier ++ .cancel "first" :: later) := by decide +kernel
  have hshared : (reached.1.2.session? "first").map Session.coordinator =
      some (.shared "vibration") := by decide +kernel
  obtain ⟨session, hopen, hcoordinator⟩ := Option.map_eq_some_iff.mp hshared
  refine ⟨hepisode, hshared, ?_, by decide +kernel⟩
  dsimp only [reached, ran] at hopen hepisode ⊢
  exact (only_last_out_writes .builtin 0 committed audited).2.2 (.shared "vibration") earlier
    (.cancel "first") later hepisode (by simp [later]) "first" session rfl hopen hcoordinator

end KernelControls
