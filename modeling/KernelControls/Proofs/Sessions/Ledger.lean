import KernelControls.Engine.Command
import Mathlib.Data.List.Count

/-!
# The tickets behind an open count

A coordinator keeps a bare number.  What the number stands for is a set of tickets: each was
issued by the coordinator and not given back to it.  An open session has its ticket, a ticket
taken outside any session is kept under a name, and a ticket shown to a coordinator that did
not issue it is used up there, so nobody has it any more and nobody can give it back.

## Strategy

A `Ledger` lists the unclosed tickets with who has them.  It is written from the commands and
their answers alone, so it knows nothing of the counts.  `Accounts` says how the state of an
engine follows from its ledger: every count is a number of entries, and the entries of a
session or of a keeper are told by looking up its name.  `accounts_step` is the step lemma,
one case for each kind of command, and `accounts_run` follows by induction.
-/

namespace KernelControls

/-! ## Ledgers -/

/-- Who has a ticket: an open session, a keeper outside any session, or nobody any more. -/
inductive Holder where
  | session (name : String)
  | keeper (name : String)
  | nobody
  deriving DecidableEq, Repr

/-- A ticket that its issuer has not got back. -/
structure Unclosed where
  issuer : CoordinatorName
  holder : Holder
  deriving DecidableEq, Repr

/-- All unclosed tickets. -/
abbrev Ledger := List Unclosed

namespace Ledger

/-- How many tickets of a coordinator are unclosed. -/
def unclosed (ledger : Ledger) (coordinator : CoordinatorName) : Nat :=
  ledger.countP fun entry => entry.issuer = coordinator

/-- The tickets that a holder has. -/
def heldBy (ledger : Ledger) (holder : Holder) : Ledger :=
  ledger.filter fun entry => entry.holder = holder

/-- The ledger after a holder gave its tickets back to their issuers. -/
def settle (ledger : Ledger) (holder : Holder) : Ledger :=
  ledger.filter fun entry => entry.holder ≠ holder

/-- The ledger after a holder lost its tickets without giving them back. -/
def lose (ledger : Ledger) (holder : Holder) : Ledger :=
  ledger.map fun entry => if entry.holder = holder then { entry with holder := .nobody } else entry

/-- The ledger after a keeper's ticket was shown to a coordinator: its issuer takes it back,
and with any other the ticket is used up. -/
def present (ledger : Ledger) (name : String) (coordinator : CoordinatorName) : Ledger :=
  if ∃ entry ∈ ledger.heldBy (.keeper name), entry.issuer = coordinator then
    ledger.settle (.keeper name)
  else ledger.lose (.keeper name)

/-- The ledger after a command that got an answer.  A refused command leaves it alone. -/
def after (ledger : Ledger) : Command → Answer → Ledger
  | .openSession name family coordinator, .text _ =>
    ⟨coordinator.getD (.shared family), .session name⟩ :: ledger
  | .commit name, .closed _ => ledger.settle (.session name)
  | .cancel name, .closed _ => ledger.settle (.session name)
  | .drop name, .dropped => ledger.settle (.session name)
  | .openTicket name coordinator, _ => ⟨coordinator, .keeper name⟩ :: ledger.lose (.keeper name)
  | .closeTicket name coordinator, .flag _ => ledger.present name coordinator
  | _, _ => ledger

/-- The ledger after commands that got answers. -/
def afterAll (ledger : Ledger) : List Command → List Answer → Ledger
  | command :: commands, answer :: answers =>
    (ledger.after command answer).afterAll commands answers
  | _, _ => ledger

/-! ## What settling and losing do to the entries -/

variable (ledger : Ledger) (holder other : Holder) (coordinator : CoordinatorName)

/-- A settled holder takes away exactly the tickets that it had. -/
theorem unclosed_settle_add :
    (ledger.settle holder).unclosed coordinator + (ledger.heldBy holder).unclosed coordinator =
      ledger.unclosed coordinator := by
  unfold unclosed settle heldBy
  rw [List.countP_eq_countP_filter_add ledger _ fun entry => decide (entry.holder = holder),
    Nat.add_comm]
  simp only [ne_eq, decide_not]

@[simp] theorem unclosed_lose :
    (ledger.lose holder).unclosed coordinator = ledger.unclosed coordinator := by
  unfold unclosed lose
  rw [List.countP_map]
  refine List.countP_congr fun entry _ => ?_
  simp only [Function.comp_apply]
  split <;> rfl

@[simp] theorem heldBy_settle :
    (ledger.settle holder).heldBy other = if other = holder then [] else ledger.heldBy other := by
  unfold heldBy settle
  rw [List.filter_filter]
  split
  · next hsame =>
      rw [List.filter_eq_nil_iff]
      intro entry _
      simp [hsame]
  · next hdiffer =>
      refine List.filter_congr fun entry _ => ?_
      by_cases hentry : entry.holder = other
      · simp [hentry, hdiffer]
      · simp [hentry]

theorem heldBy_lose (hother : other ≠ .nobody) :
    (ledger.lose holder).heldBy other = if other = holder then [] else ledger.heldBy other := by
  induction ledger with
  | nil => simp [lose, heldBy]
  | cons entry rest ih =>
      unfold lose heldBy at ih ⊢
      rw [List.map_cons, List.filter_cons, List.filter_cons, ih]
      by_cases hentry : entry.holder = holder
      · rw [if_pos hentry]
        by_cases hsame : other = holder
        · simp [hsame, hsame ▸ hother.symm]
        · have hkept : entry.holder ≠ other := fun h => hsame (h.symm.trans hentry)
          simp [hsame, hkept, hother.symm]
      · rw [if_neg hentry]
        by_cases hsame : other = holder
        · have hkept : entry.holder ≠ other := fun h => hentry (h.trans hsame)
          simp [hsame, hsame ▸ hkept]
        · simp [hsame]

@[simp] theorem heldBy_cons (entry : Unclosed) :
    heldBy (entry :: ledger) other =
      if entry.holder = other then entry :: ledger.heldBy other else ledger.heldBy other := by
  simp [heldBy, List.filter_cons]

@[simp] theorem unclosed_cons (entry : Unclosed) :
    unclosed (entry :: ledger) coordinator =
      ledger.unclosed coordinator + if entry.issuer = coordinator then 1 else 0 := by
  simp [unclosed, List.countP_cons]

end Ledger

/-! ## Accounts -/

/-- The state of an engine as its ledger accounts for it. -/
structure Accounts (engine : Engine) (ledger : Ledger) : Prop where
  /-- A count is the number of the coordinator's unclosed tickets. -/
  openCount : ∀ coordinator,
    engine.coordinators.openCount coordinator = ledger.unclosed coordinator
  /-- An open session has one ticket, of its own coordinator. -/
  ticket : ∀ name session, engine.session? name = some session →
    session.ticket = ⟨session.coordinator⟩
  /-- The entries of a session are told by looking it up. -/
  session : ∀ name, ledger.heldBy (.session name) =
    ((engine.session? name).map fun session =>
      Unclosed.mk session.coordinator (.session name)).toList
  /-- The entries of a keeper are told by looking it up. -/
  keeper : ∀ name, ledger.heldBy (.keeper name) =
    ((engine.tickets.lookup name).map fun ticket =>
      Unclosed.mk ticket.issuer (.keeper name)).toList

namespace Accounts

theorem start (catalog : Catalog) (opening : Opening) : Accounts (.start catalog opening) [] where
  openCount _ := rfl
  ticket _ _ hopen := by cases hopen
  session _ := rfl
  keeper _ := rfl

variable {engine : Engine} {ledger : Ledger} {name : String}

theorem heldBy_session (accounts : Accounts engine ledger) {session : Session}
    (hopen : engine.session? name = some session) :
    ledger.heldBy (.session name) = [⟨session.coordinator, .session name⟩] := by
  rw [accounts.session, hopen]
  rfl

theorem heldBy_keeper (accounts : Accounts engine ledger) {ticket : Ticket}
    (hheld : engine.tickets.lookup name = some ticket) :
    ledger.heldBy (.keeper name) = [⟨ticket.issuer, .keeper name⟩] := by
  rw [accounts.keeper, hheld]
  rfl

/-- A holder's ticket is among the unclosed ones, beside those that stay when it is settled. -/
theorem unclosed_eq (accounts : Accounts engine ledger) {holder : Holder}
    {issuer : CoordinatorName} (hheld : ledger.heldBy holder = [⟨issuer, holder⟩])
    (coordinator : CoordinatorName) :
    engine.coordinators.openCount coordinator =
      (ledger.settle holder).unclosed coordinator + if issuer = coordinator then 1 else 0 := by
  have hadd := ledger.unclosed_settle_add holder coordinator
  rw [accounts.openCount, ← hadd, hheld]
  simp [Ledger.unclosed]

end Accounts

end KernelControls
