import KernelControls.Proofs.Sessions.Ledger
import KernelControls.Proofs.Engine.Operations

/-!
# Open counts are exact

However sessions and kept tickets are opened and closed, in whatever order and on whatever
coordinators, the count of a coordinator is the number of its unclosed tickets.

## Strategy

Five lemmas say what the five changes of an engine's state do to its accounts: a session is
opened, edited or ended, a ticket is taken or shown.  `accounts_step` puts every command under
one of them.  Closing needs one computation, `close_own`: the count before is one more than the
number of tickets that stay, so the branch of a count that is zero is never taken.
-/

namespace KernelControls

namespace Accounts

variable {engine : Engine} {ledger : Ledger} {name : String} {session : Session}

/-! ## Closing at the issuer -/

/-- Closing a held ticket at its issuer leaves the other tickets, and answers whether there are
none. -/
theorem close_own (accounts : Accounts engine ledger) {holder : Holder}
    {issuer : CoordinatorName} (hheld : ledger.heldBy holder = [⟨issuer, holder⟩]) :
    engine.coordinators.close issuer ⟨issuer⟩ =
      ((ledger.settle holder).unclosed issuer == 0,
        engine.coordinators.setCount issuer ((ledger.settle holder).unclosed issuer)) := by
  have hcount := accounts.unclosed_eq hheld issuer
  rw [if_pos rfl] at hcount
  simp [Coordinators.close, hcount]

theorem openCount_close_own (accounts : Accounts engine ledger) {holder : Holder}
    {issuer : CoordinatorName} (hheld : ledger.heldBy holder = [⟨issuer, holder⟩])
    (coordinator : CoordinatorName) :
    (engine.coordinators.close issuer ⟨issuer⟩).2.openCount coordinator =
      (ledger.settle holder).unclosed coordinator := by
  rw [accounts.close_own hheld]
  show (engine.coordinators.setCount _ _).openCount coordinator = _
  rw [Coordinators.openCount_setCount]
  split
  · next hsame => rw [hsame]
  · next hother =>
      have hcount := accounts.unclosed_eq hheld coordinator
      rw [if_neg fun h => hother h.symm] at hcount
      exact hcount

/-! ## Sessions -/

theorem withSession (accounts : Accounts engine ledger) (hfree : engine.session? name = none)
    (hticket : session.ticket = ⟨session.coordinator⟩) :
    Accounts (engine.withSession name session)
      (⟨session.coordinator, .session name⟩ :: ledger) where
  openCount coordinator := by
    show (engine.coordinators.setCount _ _).openCount coordinator = _
    rw [Coordinators.openCount_setCount, Ledger.unclosed_cons, ← accounts.openCount]
    by_cases hsame : coordinator = session.coordinator
    · rw [if_pos hsame, if_pos hsame.symm, hsame]
    · rw [if_neg hsame, if_neg fun h => hsame h.symm, Nat.add_zero]
  ticket other found hfound := by
    rw [Engine.session?_withSession] at hfound
    split at hfound
    · exact Option.some.inj hfound ▸ hticket
    · exact accounts.ticket other found hfound
  session other := by
    rw [Ledger.heldBy_cons, Engine.session?_withSession]
    by_cases hsame : other = name
    · have hnone : ledger.heldBy (.session other) = [] := by
        rw [accounts.session, hsame, hfree]
        rfl
      simp [hsame, hsame ▸ hnone]
    · have hother : ¬ Holder.session name = .session other := fun h =>
        hsame (Holder.session.inj h).symm
      rw [if_neg hother, if_neg hsame, accounts.session]
  keeper other := by
    simpa using accounts.keeper other

/-- A session that is edited keeps its coordinator and its ticket, so nothing is counted. -/
theorem putSession (accounts : Accounts engine ledger) (hopen : engine.session? name = some session)
    {edited : Session} (hcoordinator : edited.coordinator = session.coordinator)
    (hticket : edited.ticket = session.ticket) :
    Accounts (engine.putSession name edited) ledger where
  openCount := accounts.openCount
  ticket other found hfound := by
    rw [Engine.session?_putSession] at hfound
    split at hfound
    · rw [← Option.some.inj hfound, hticket, hcoordinator]
      exact accounts.ticket name session hopen
    · exact accounts.ticket other found hfound
  session other := by
    rw [accounts.session, Engine.session?_putSession]
    split
    · next hsame => simp [hsame, hopen, hcoordinator]
    · rfl
  keeper := accounts.keeper

theorem withoutSession (accounts : Accounts engine ledger)
    (hopen : engine.session? name = some session) :
    Accounts (engine.withoutSession name session) (ledger.settle (.session name)) where
  openCount coordinator := by
    show (engine.coordinators.close session.coordinator session.ticket).2.openCount _ = _
    rw [accounts.ticket name session hopen]
    exact accounts.openCount_close_own (accounts.heldBy_session hopen) coordinator
  ticket other found hfound := by
    rw [Engine.session?_withoutSession] at hfound
    split at hfound
    · cases hfound
    · exact accounts.ticket other found hfound
  session other := by
    by_cases hsame : other = name
    · simp [hsame]
    · simpa [hsame] using accounts.session other
  keeper other := by
    simpa using accounts.keeper other

/-! ## Kept tickets -/

theorem openTicket (accounts : Accounts engine ledger) (name : String)
    (coordinator : CoordinatorName) :
    Accounts (engine.openTicket name coordinator)
      (⟨coordinator, .keeper name⟩ :: ledger.lose (.keeper name)) where
  openCount other := by
    show (engine.coordinators.setCount _ _).openCount other = _
    rw [Coordinators.openCount_setCount, Ledger.unclosed_cons, Ledger.unclosed_lose,
      ← accounts.openCount]
    by_cases hsame : other = coordinator
    · rw [if_pos hsame, if_pos hsame.symm, hsame]
    · rw [if_neg hsame, if_neg fun h => hsame h.symm, Nat.add_zero]
  ticket := accounts.ticket
  session other := by
    rw [Ledger.heldBy_cons, if_neg (by simp), Ledger.heldBy_lose _ _ _ (by simp),
      if_neg (by simp), accounts.session]
    rfl
  keeper other := by
    have hlookup : (engine.openTicket name coordinator).tickets.lookup other =
        if other = name then some ⟨coordinator⟩ else engine.tickets.lookup other :=
      Association.lookup_put name other _ engine.tickets
    rw [Ledger.heldBy_cons, Ledger.heldBy_lose _ _ _ (by simp), hlookup, accounts.keeper]
    by_cases hsame : other = name
    · simp [hsame]
    · have hother : ¬ name = other := fun h => hsame h.symm
      simp [hsame, hother]

/-- Showing a kept ticket at its issuer gives it back, and anywhere else loses it. -/
theorem closeTicket (accounts : Accounts engine ledger) {ticket : Ticket}
    (hheld : engine.tickets.lookup name = some ticket) (coordinator : CoordinatorName) :
    Accounts (engine.closeTicket name coordinator).2 (ledger.present name coordinator) := by
  have hentries := accounts.heldBy_keeper hheld
  have hclosed : engine.closeTicket name coordinator =
      (.ok (engine.coordinators.close coordinator ticket).1,
        { engine with
          coordinators := (engine.coordinators.close coordinator ticket).2
          tickets := Association.drop name engine.tickets }) := by
    unfold Engine.closeTicket
    rw [hheld]
  have hlookup : ∀ other, (Association.drop name engine.tickets).lookup other =
      if other = name then none else engine.tickets.lookup other := fun other =>
    Association.lookup_drop name other engine.tickets
  -- Either way the keeper loses this one ticket.
  have hkeeper : ∀ other, (if Holder.keeper other = .keeper name then []
      else ledger.heldBy (.keeper other)) =
      ((if other = name then none else engine.tickets.lookup other).map fun ticket =>
        Unclosed.mk ticket.issuer (.keeper other)).toList := by
    intro other
    rw [accounts.keeper]
    by_cases hsame : other = name
    · simp [hsame]
    · simp [hsame]
  rw [hclosed, Ledger.present, hentries]
  by_cases hissuer : ticket.issuer = coordinator
  · -- Given back: the issuer counts one ticket less.
    rw [if_pos ⟨_, List.mem_singleton_self _, hissuer⟩]
    have hticket : ticket = ⟨coordinator⟩ := by rw [← hissuer]
    rw [hissuer] at hentries
    exact {
      openCount := fun other => by
        show (engine.coordinators.close coordinator ticket).2.openCount other = _
        rw [hticket]
        exact accounts.openCount_close_own hentries other
      ticket := accounts.ticket
      session := fun other => by
        rw [Ledger.heldBy_settle, if_neg (by simp), accounts.session]
        rfl
      keeper := fun other => by
        rw [Ledger.heldBy_settle, hlookup]
        exact hkeeper other }
  · -- Foreign: no count changes, and the ticket is gone.
    rw [if_neg (by simpa using hissuer), Coordinators.close_foreign _ hissuer]
    exact {
      openCount := fun other => by rw [Ledger.unclosed_lose]; exact accounts.openCount other
      ticket := accounts.ticket
      session := fun other => by
        rw [Ledger.heldBy_lose _ _ _ (by simp), if_neg (by simp), accounts.session]
        rfl
      keeper := fun other => by
        rw [Ledger.heldBy_lose _ _ _ (by simp), hlookup]
        exact hkeeper other }

end Accounts

/-! ## Steps and runs -/

theorem Ledger.after_of_leavesEngine (ledger : Ledger) {command : Command}
    (h : Engine.leavesEngine command = true) (answer : Answer) :
    ledger.after command answer = ledger := by
  cases command <;> first | rfl | cases h

variable {World : Type} [NodeAccess (StateM World)] [PreferenceAccess (StateM World)]
  {engine : Engine} {ledger : Ledger}

/-- An ending gives the ticket of the session back, or finds no session, and its answer tells
the ledger which. -/
theorem accounts_closeSession (accounts : Accounts engine ledger) (name : String)
    (accepted : Bool) (world : World) (command : Command)
    (answer : Except EngineError Closing → Answer)
    (hended : ∀ closing, ledger.after command (answer (.ok closing)) =
      ledger.settle (.session name))
    (hrefused : ∀ error, ledger.after command (answer (.error error)) = ledger) :
    Accounts (perform (engine.closeSession name accepted) world).1.2
      (ledger.after command (answer (perform (engine.closeSession name accepted) world).1.1)) := by
  cases hopen : engine.session? name with
  | none =>
      rw [engine.closeSession_none world hopen, hrefused]
      exact accounts
  | some session =>
      rw [engine.closeSession_some world hopen, hended]
      exact accounts.withoutSession hopen

theorem accounts_step (accounts : Accounts engine ledger) (command : Command) (world : World) :
    Accounts (perform (engine.step command) world).1.2
      (ledger.after command (perform (engine.step command) world).1.1) := by
  by_cases hleaves : Engine.leavesEngine command = true
  · rw [engine.step_of_leavesEngine world hleaves, ledger.after_of_leavesEngine hleaves]
    exact accounts
  cases command with
  | openSession name id coordinator =>
      rw [engine.step_openSession]
      rcases engine.openSession_cases world name id coordinator with
        ⟨error, after, hrun, -⟩ | ⟨family, hfree, -, hrun⟩
      · rw [hrun]
        exact accounts
      · -- The new session holds the ticket that was issued for it.
        simp only [hrun]
        exact accounts.withSession hfree rfl
  | setLive name control value =>
      rw [engine.step_setLive]
      cases hopen : engine.session? name with
      | none =>
          rw [engine.setLive_none world hopen]
          exact accounts
      | some session =>
          cases hknown : session.edit? control with
          | none =>
              rw [engine.setLive_unknown world hopen hknown]
              exact accounts
          | some edit =>
              simp only [engine.setLive_known world hopen hknown]
              exact accounts.putSession hopen rfl rfl
  | resetSession name =>
      rw [engine.step_resetSession]
      cases hopen : engine.session? name with
      | none =>
          rw [engine.resetSession_none world hopen]
          exact accounts
      | some session =>
          simp only [engine.resetSession_some world hopen]
          exact accounts.putSession hopen rfl rfl
  | commit name =>
      exact accounts_closeSession accounts name true world (.commit name) (.ofResult .closed)
        (fun _ => rfl) fun _ => rfl
  | cancel name =>
      exact accounts_closeSession accounts name false world (.cancel name) (.ofResult .closed)
        (fun _ => rfl) fun _ => rfl
  | drop name =>
      exact accounts_closeSession accounts name false world (.drop name) .ofDropped
        (fun _ => rfl) fun _ => rfl
  | openTicket name coordinator => exact accounts.openTicket name coordinator
  | closeTicket name coordinator =>
      -- The answer tells the ledger whether there was a ticket to show.
      show Accounts (engine.closeTicket name coordinator).2
        (ledger.after _ (.ofResult .flag (engine.closeTicket name coordinator).1))
      cases hheld : engine.tickets.lookup name with
      | none =>
          have hrefused : engine.closeTicket name coordinator = (.error .noTicket, engine) := by
            unfold Engine.closeTicket
            rw [hheld]
          rw [hrefused]
          exact accounts
      | some ticket =>
          have hanswer : (engine.closeTicket name coordinator).1 =
              .ok (engine.coordinators.close coordinator ticket).1 := by
            unfold Engine.closeTicket
            rw [hheld]
          rw [hanswer]
          exact accounts.closeTicket hheld coordinator
  | _ => exact absurd rfl hleaves

theorem accounts_run (commands : List Command) (accounts : Accounts engine ledger) (world : World) :
    Accounts (perform (engine.run commands) world).1.2
      (ledger.afterAll commands (perform (engine.run commands) world).1.1) := by
  induction commands generalizing engine ledger world with
  | nil => exact accounts
  | cons command rest ih =>
      rw [engine.run_cons]
      exact ih (accounts_step accounts command world) _

/-- An engine whose counts are accounted for by some ledger.  Every engine that a run leads to
is one. -/
def Engine.Tidy (engine : Engine) : Prop :=
  ∃ ledger, Accounts engine ledger

theorem tidy_start (catalog : Catalog) (opening : Opening) : (Engine.start catalog opening).Tidy :=
  ⟨[], .start catalog opening⟩

theorem tidy_step (tidy : engine.Tidy) (command : Command) (world : World) :
    (perform (engine.step command) world).1.2.Tidy := by
  obtain ⟨ledger, accounts⟩ := tidy
  exact ⟨_, accounts_step accounts command world⟩

theorem Engine.Tidy.openCount_ne_zero (tidy : engine.Tidy) {name : String} {session : Session}
    (hopen : engine.session? name = some session) :
    engine.coordinators.openCount session.coordinator ≠ 0 := by
  obtain ⟨ledger, accounts⟩ := tidy
  rw [accounts.unclosed_eq (accounts.heldBy_session hopen), if_pos rfl]
  exact Nat.succ_ne_zero _

/-- In a tidy engine the last one out is the session whose end brings the count to zero. -/
theorem Engine.Tidy.isLastOut_iff (tidy : engine.Tidy) {name : String} {session : Session}
    (hopen : engine.session? name = some session) : engine.isLastOut session = true ↔
      (engine.withoutSession name session).coordinators.openCount session.coordinator = 0 := by
  obtain ⟨ledger, accounts⟩ := tidy
  have hheld := accounts.heldBy_session hopen
  unfold Engine.isLastOut Engine.withoutSession
  rw [accounts.ticket name session hopen, accounts.openCount_close_own hheld,
    accounts.close_own hheld]
  exact beq_iff_eq

/-! ## Counts and openings -/

/-- Whether a command asks for a ticket. -/
def Command.opens : Command → Bool
  | .openSession .. | .openTicket .. => true
  | _ => false

theorem Ledger.length_after_le (ledger : Ledger) (command : Command) (answer : Answer) :
    (ledger.after command answer).length ≤ ledger.length + if command.opens then 1 else 0 := by
  have hsettle : ∀ holder, (ledger.settle holder).length ≤ ledger.length := fun holder =>
    List.length_filter_le _ _
  have hlose : ∀ holder, (ledger.lose holder).length = ledger.length := fun holder =>
    List.length_map _
  unfold Ledger.after
  split
  · exact Nat.le_refl _
  · exact hsettle _
  · exact hsettle _
  · exact hsettle _
  · exact Nat.le_of_eq (congrArg (· + 1) (hlose _))
  · unfold Ledger.present
    split
    · exact hsettle _
    · exact Nat.le_of_eq (hlose _)
  · exact Nat.le_add_right _ _

theorem Ledger.length_afterAll_le (ledger : Ledger) (commands : List Command)
    (answers : List Answer) :
    (ledger.afterAll commands answers).length ≤ ledger.length + commands.countP Command.opens := by
  induction commands generalizing ledger answers with
  | nil => exact Nat.le_add_right _ _
  | cons command rest ih =>
      cases answers with
      | nil => exact Nat.le_add_right _ _
      | cons answer answers =>
          have hfirst := ledger.length_after_le command answer
          have hrest := ih (ledger.after command answer) answers
          rw [List.countP_cons]
          unfold Ledger.afterAll
          omega

/-! ## Exact closing -/

/-- Closing a holder's ticket is exact: the answer is whether the coordinator issued the ticket
and has no other one unclosed, a ticket of the coordinator finds a count that is not zero and
takes one from it, and a foreign ticket changes nothing. -/
structure ClosesExactly (coordinators : Coordinators) (ledger : Ledger) (holder : Holder)
    (coordinator : CoordinatorName) (ticket : Ticket) : Prop where
  last : (coordinators.close coordinator ticket).1 = true ↔
    ticket.issuer = coordinator ∧ ∀ entry ∈ ledger.settle holder, entry.issuer ≠ coordinator
  counted : ticket.issuer = coordinator → coordinators.openCount coordinator ≠ 0 ∧
    ∀ other, (coordinators.close coordinator ticket).2.openCount other +
      (if other = coordinator then 1 else 0) = coordinators.openCount other
  foreign : ticket.issuer ≠ coordinator →
    coordinators.close coordinator ticket = (false, coordinators)

theorem Accounts.closesExactly (accounts : Accounts engine ledger) {holder : Holder}
    {ticket : Ticket} (hheld : ledger.heldBy holder = [⟨ticket.issuer, holder⟩])
    (coordinator : CoordinatorName) :
    ClosesExactly engine.coordinators ledger holder coordinator ticket := by
  by_cases hissuer : ticket.issuer = coordinator
  · have hticket : ticket = ⟨coordinator⟩ := by rw [← hissuer]
    rw [hticket] at hheld ⊢
    -- Its own ticket: the count is what the others hold, and one.
    have hcount := accounts.unclosed_eq hheld
    refine ⟨?_, fun _ => ⟨?_, fun other => ?_⟩, fun h => absurd rfl h⟩
    · rw [accounts.close_own hheld]
      simp [Ledger.unclosed, List.countP_eq_zero]
    · rw [hcount coordinator, if_pos rfl]
      exact Nat.succ_ne_zero _
    · rw [accounts.openCount_close_own hheld, hcount other]
      simp only [eq_comm]
  · -- A foreign ticket is turned away.
    have hforeign := Coordinators.close_foreign engine.coordinators hissuer
    refine ⟨?_, fun h => absurd h hissuer, fun _ => hforeign⟩
    rw [hforeign]
    simp [hissuer]

/-- A session holds the one ticket that its own coordinator issued for it, which closes exactly. -/
theorem Accounts.closesExactly_session (accounts : Accounts engine ledger) {name : String}
    {session : Session} (hopen : engine.session? name = some session) :
    session.ticket.issuer = session.coordinator ∧
      ClosesExactly engine.coordinators ledger (.session name) session.coordinator
        session.ticket := by
  have hissuer : session.ticket.issuer = session.coordinator := by
    rw [accounts.ticket name session hopen]
  have hheld : ledger.heldBy (.session name) = [⟨session.ticket.issuer, .session name⟩] := by
    rw [hissuer]
    exact accounts.heldBy_session hopen
  exact ⟨hissuer, accounts.closesExactly hheld session.coordinator⟩

/-- **Open counts are exact.**  At the end of every run, hence at every point of it, a count is
the number of tickets that the coordinator issued and that were not closed on it: those of the
open sessions, those that are kept, and those that nobody has any more because they were shown
elsewhere.  It never exceeds the number of openings, so a word that holds this number holds
the count.  From there every close is exact, a session gives back one count whichever way it
ends and cannot end again, and a refused opening leaves everything as it was. -/
theorem openCount_exact (catalog : Catalog) (opening : Opening) (commands : List Command)
    (world : World) :
    let ran := perform ((Engine.start catalog opening).run commands) world
    let engine := ran.1.2
    let ledger := Ledger.afterAll [] commands ran.1.1
    (∀ coordinator,
      engine.coordinators.openCount coordinator = ledger.unclosed coordinator ∧
      engine.coordinators.openCount coordinator ≤ commands.countP Command.opens) ∧
    (∀ name, ledger.heldBy (.session name) = ((engine.session? name).map fun session =>
      Unclosed.mk session.coordinator (.session name)).toList) ∧
    (∀ name, ledger.heldBy (.keeper name) = ((engine.tickets.lookup name).map fun ticket =>
      Unclosed.mk ticket.issuer (.keeper name)).toList) ∧
    (∀ name ticket, engine.tickets.lookup name = some ticket → ∀ coordinator,
      ClosesExactly engine.coordinators ledger (.keeper name) coordinator ticket) ∧
    (∀ name session, engine.session? name = some session →
      session.ticket.issuer = session.coordinator ∧
      ClosesExactly engine.coordinators ledger (.session name) session.coordinator
        session.ticket ∧
      ∀ (accepted : Bool) (later : World),
        let ended := (perform (engine.closeSession name accepted) later).1.2
        ended.session? name = none ∧ ∀ coordinator,
          ended.coordinators.openCount coordinator +
            (if coordinator = session.coordinator then 1 else 0) =
            engine.coordinators.openCount coordinator) ∧
    (∀ name id coordinator error (later : World),
      (perform (engine.openSession name id coordinator) later).1.1 = .error error →
      (perform (engine.openSession name id coordinator) later).1.2 = engine) := by
  intro ran engine ledger
  have accounts : Accounts engine ledger :=
    accounts_run commands (.start catalog opening) world
  refine ⟨fun coordinator => ⟨accounts.openCount coordinator, ?_⟩, accounts.session,
    accounts.keeper, ?_, ?_, ?_⟩
  · -- Every unclosed ticket is an entry, and only openings add entries.
    calc engine.coordinators.openCount coordinator
        = ledger.unclosed coordinator := accounts.openCount coordinator
      _ ≤ ledger.length := List.countP_le_length
      _ ≤ 0 + commands.countP Command.opens := Ledger.length_afterAll_le [] commands _
      _ = commands.countP Command.opens := Nat.zero_add _
  · intro name ticket hheld coordinator
    exact accounts.closesExactly (accounts.heldBy_keeper hheld) coordinator
  · intro name session hopen
    obtain ⟨hissuer, hexact⟩ := accounts.closesExactly_session hopen
    refine ⟨hissuer, hexact, fun accepted later => ?_⟩
    simp only [engine.closeSession_some later hopen]
    exact ⟨by simp, (hexact.counted hissuer).2⟩
  · intro name id coordinator error later hrefused
    rcases engine.openSession_cases later name id coordinator with
      ⟨error', after, hrun, -⟩ | ⟨family, -, -, hrun⟩
    · rw [hrun]
    · rw [hrun] at hrefused
      cases hrefused

end KernelControls
