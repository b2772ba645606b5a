import KernelControls.Proofs.Engine.Operations

/-!
# Asking keeps what holds

Whatever an engine does, it does it by asking for nodes and saved values, by writing nodes and by
saving values.  A property of the world that no single question breaks is kept by everything that is
made of questions: looking for a family's nodes, reading them, capturing saved values, opening a
session.

## Strategy

`Maintains` is closed under sequencing, under choices and under batches, whichever of their items
are refused.  From the three questions it is one lemma for each operation.
-/

namespace KernelControls

/-! ## Actions that maintain a property -/

section Maintains

variable {World Value Other Item Reason : Type}

/-- An action after which a property of the world holds if it held before. -/
def Maintains (holds : World → Prop) (action : StateM World Value) : Prop :=
  ∀ world, holds world → holds (perform action world).2

namespace Maintains

variable {holds : World → Prop}

theorem pure (value : Value) : Maintains holds (Pure.pure value : StateM World Value) :=
  fun _ hholds => hholds

theorem bind {action : StateM World Value} {rest : Value → StateM World Other}
    (haction : Maintains holds action) (hrest : ∀ value, Maintains holds (rest value)) :
    Maintains holds (action >>= rest) :=
  fun world hholds => hrest _ _ (haction world hholds)

theorem ite {condition : Prop} [Decidable condition] {action other : StateM World Value}
    (haction : Maintains holds action) (hother : Maintains holds other) :
    Maintains holds (if condition then action else other) := by
  split
  · exact haction
  · exact hother

/-- A batch maintains what each of its attempts maintains, whichever of them are refused. -/
theorem attemptAll {attempt : Item → StateM World (Except Reason Unit)} {items : List Item}
    (hattempts : ∀ item ∈ items, Maintains holds (attempt item)) :
    Maintains holds (KernelControls.attemptAll attempt items) := by
  induction items with
  | nil => exact pure _
  | cons item rest ih =>
      obtain ⟨hitem, hrest⟩ := List.forall_mem_cons.mp hattempts
      exact hitem.bind fun _ => (ih hrest).bind fun _ => pure _

end Maintains

end Maintains

variable {World : Type} [NodeAccess (StateM World)] [PreferenceAccess (StateM World)]
  {holds : World → Prop}

/-! ## Questions -/

/-- Whether a command only asks about nodes and preferences. -/
def Command.asks : Command → Bool
  | .listFamilies | .listSupported | .showFamily _ | .askSupported _ | .listMissing _
  | .showSession _ | .showControl .. | .countOpen _ | .showSaved .. | .showCurrent _
  | .showCurrentLine _ => true
  | _ => false

/-- A property of the world that no question breaks. -/
structure Undisturbed (holds : World → Prop) : Prop where
  isPresent : ∀ path, Maintains holds (NodeAccess.isPresent path)
  read : ∀ path, Maintains holds (NodeAccess.read path)
  saved? : ∀ opening key, Maintains holds (PreferenceAccess.saved? opening key)

namespace Undisturbed

variable (undisturbed : Undisturbed holds)
include undisturbed

theorem missingPaths (paths : List String) :
    Maintains holds (KernelControls.missingPaths paths) := by
  induction paths with
  | nil => exact .pure _
  | cons path rest ih =>
      exact (undisturbed.isPresent path).bind fun _ => ih.bind fun _ => .pure _

theorem isSupported (family : Family) : Maintains holds family.isSupported :=
  (undisturbed.missingPaths _).bind fun _ => .pure _

theorem supportedAmong (families : List Family) :
    Maintains holds (Engine.supportedAmong families) := by
  induction families with
  | nil => exact .pure _
  | cons family rest ih =>
      exact (undisturbed.isSupported family).bind fun _ => ih.bind fun _ => .pure _

theorem readValue (control : Control) : Maintains holds control.readValue := by
  refine (undisturbed.read control.path).bind fun result => ?_
  cases result with
  | error error => exact .pure _
  | ok text =>
      simp only
      cases control.codec.decode text <;> exact .pure _

theorem readValues (controls : List Control) :
    Maintains holds (KernelControls.readValues controls) := by
  induction controls with
  | nil => exact .pure _
  | cons control rest ih =>
      refine (undisturbed.readValue control).bind fun result => ?_
      cases result with
      | error error => exact .pure _
      | ok value =>
          refine Maintains.bind ih fun others => ?_
          cases others <;> exact .pure _

theorem saved (control : Control) (opening : Opening) :
    Maintains holds (control.saved opening) :=
  (undisturbed.saved? opening control.key).bind fun _ => .pure _

theorem captureEdits (opening : Opening) (controls : List Control) :
    Maintains holds (KernelControls.captureEdits opening controls) := by
  induction controls with
  | nil => exact .pure _
  | cons control rest ih =>
      exact (undisturbed.saved control opening).bind fun _ => ih.bind fun _ => .pure _

theorem currentValues (engine : Engine) (id : String) :
    Maintains holds (engine.currentValues id) := by
  unfold Engine.currentValues
  cases engine.family id with
  | error error => exact .pure _
  | ok family => exact undisturbed.readValues _

theorem savedValue (engine : Engine) (id name : String) :
    Maintains holds (engine.savedValue id name) := by
  unfold Engine.savedValue
  cases engine.family id >>= fun family => Engine.control family name with
  | error error => exact .pure _
  | ok control => exact (undisturbed.saved control _).bind fun _ => .pure _

/-- An opening only asks, whether it is refused or not. -/
theorem openSession (engine : Engine) (name id : String) (coordinator : Option CoordinatorName) :
    Maintains holds (engine.openSession name id coordinator) := by
  intro world hholds
  rcases engine.openSession_cases world name id coordinator with
    ⟨error, after, hrun, rfl | ⟨family, rfl⟩⟩ | ⟨family, -, -, hrun⟩
  · rw [hrun]
    exact hholds
  · rw [hrun]
    exact undisturbed.isSupported family world hholds
  · rw [hrun]
    exact undisturbed.captureEdits _ _ _ (undisturbed.isSupported family world hholds)

theorem step_of_asks (engine : Engine) {command : Command} (hasks : command.asks = true) :
    Maintains holds (engine.step command) := by
  cases command
  case listFamilies | showFamily | countOpen => exact .pure _
  case listSupported => exact (undisturbed.supportedAmong _).bind fun _ => .pure _
  case askSupported id =>
      refine Maintains.bind ?_ fun _ => .pure _
      unfold Engine.isSupported
      cases engine.catalog.get? id with
      | none => exact .pure _
      | some family => exact undisturbed.isSupported family
  case listMissing id =>
      simp only [Engine.step]
      cases engine.family id with
      | error error => exact .pure _
      | ok family => exact (undisturbed.missingPaths _).bind fun _ => .pure _
  case showSession name | showControl name _ =>
      simp only [Engine.step]
      cases engine.session? name <;> exact .pure _
  case showSaved id name => exact (undisturbed.savedValue engine id name).bind fun _ => .pure _
  case showCurrent id => exact (undisturbed.currentValues engine id).bind fun _ => .pure _
  case showCurrentLine id =>
      refine Maintains.bind ?_ fun _ => .pure _
      exact (undisturbed.currentValues engine id).bind fun _ => .pure _
  all_goals cases hasks

/-! ### What is found -/

section Found

variable {present : String → Bool} {world : World}
  (hanswers : ∀ path world, holds world →
    (perform (NodeAccess.isPresent path) world).1 = present path)
include hanswers

theorem answer_missingPaths (paths : List String) (hworld : holds world) :
    (perform (KernelControls.missingPaths paths) world).1 =
      paths.filter fun path => !present path := by
  induction paths generalizing world with
  | nil => rfl
  | cons path rest ih =>
      have hlater := ih (undisturbed.isPresent path world hworld)
      rw [List.filter_cons, ← hlater, ← hanswers path world hworld]
      show (if (perform (NodeAccess.isPresent path) world).1 = true then _ else _) = _
      cases (perform (NodeAccess.isPresent path) world).1 <;> rfl

theorem answer_isSupported (family : Family) (hworld : holds world) :
    (perform family.isSupported world).1 = (!family.controls.isEmpty &&
      family.controls.all fun control => present control.path) := by
  have hmissing : (perform family.missing world).1 = _ :=
    undisturbed.answer_missingPaths hanswers (family.controls.map Control.path) hworld
  have hempty : ∀ controls : List Control,
      ((controls.map Control.path).filter fun path => !present path).isEmpty =
        controls.all fun control => present control.path := by
    intro controls
    rw [Bool.eq_iff_iff, List.isEmpty_iff, List.filter_eq_nil_iff, List.all_eq_true]
    simp
  show (!family.controls.isEmpty && (perform family.missing world).1.isEmpty) = _
  rw [hmissing, hempty]

/-- The supported ones among families, in order. -/
theorem answer_supportedAmong (families : List Family) (hworld : holds world) :
    (perform (Engine.supportedAmong families) world).1 = families.filter fun family =>
      !family.controls.isEmpty && family.controls.all fun control => present control.path := by
  induction families generalizing world with
  | nil => rfl
  | cons family rest ih =>
      have hlater := ih (undisturbed.isSupported family world hworld)
      rw [List.filter_cons, ← hlater, ← undisturbed.answer_isSupported hanswers family hworld]
      rfl

end Found

end Undisturbed

end KernelControls
