import KernelControls.Proofs.Backends.Mirroring

/-!
# Watching for refusals

A backend does not remember whether it ever refused a write or a saving.  A watched backend passes
every request on, answers what it was answered, and remembers this one thing.

## Strategy

Watching changes no answer: a backend and the same backend watched are a `Simulation`, whose
worlds correspond when they are equal.  So what a calm run does can be read off the watched run,
one command after the other (`Engine.refuses_cons`).
-/

namespace KernelControls

/-- A backend, and whether it refused a write or a saving so far. -/
structure Watched (World : Type) where
  world : World
  refused : Bool := false

namespace Watched

variable {World Value Reason : Type}

/-- Pass a question on. -/
def ask (action : StateM World Value) : StateM (Watched World) Value := fun watched =>
  let asked := perform action watched.world
  (asked.1, { watched with world := asked.2 })

/-- Pass on what may be refused. -/
def attempt (action : StateM World (Except Reason Unit)) :
    StateM (Watched World) (Except Reason Unit) := fun watched =>
  let attempted := perform action watched.world
  (attempted.1, ⟨attempted.2, watched.refused || !attempted.1.isOk⟩)

instance [NodeAccess (StateM World)] : NodeAccess (StateM (Watched World)) where
  isPresent path := ask (NodeAccess.isPresent path)
  read path := ask (NodeAccess.read path)
  write path text := attempt (NodeAccess.write path text)

instance [PreferenceAccess (StateM World)] : PreferenceAccess (StateM (Watched World)) where
  saved? opening key := ask (PreferenceAccess.saved? opening key)
  save opening key value := attempt (PreferenceAccess.save opening key value)

/-- Nothing was refused so far. -/
def Calm (watched : Watched World) : Prop :=
  watched.refused = false

theorem calm_of_attempt {action : StateM World (Except Reason Unit)} {watched : Watched World}
    (hcalm : (perform (attempt action) watched).2.Calm) :
    watched.Calm ∧ (perform action watched.world).1 = .ok () := by
  obtain ⟨hbefore, hanswer⟩ := Bool.or_eq_false_iff.mp hcalm
  refine ⟨hbefore, ?_⟩
  cases hresult : (perform action watched.world).1 with
  | error reason => rw [hresult] at hanswer; cases hanswer
  | ok done => rfl

/-! ## Watching both sides -/

section Pairs

variable {Left Right : Type} {before : Left → Right → Prop}

/-- Two worlds that are related when they are not watched. -/
def Both (related : Left → Right → Prop) (world : Watched Left) (other : Watched Right) : Prop :=
  related world.world other.world

/-- Questions that are answered alike are answered alike when both sides are watched. -/
theorem mirrors_ask {left : StateM Left Value} {right : StateM Right Value}
    {after : Value → Left → Right → Prop}
    (hsame : ∀ world other, before world other →
      (perform right other).1 = (perform left world).1 ∧
        after (perform left world).1 (perform left world).2 (perform right other).2) :
    Mirrors Calm Calm (Both before) (ask left) (ask right) fun value => Both (after value) where
  calm_left _ hcalm := hcalm
  calm_right _ hcalm := hcalm
  same world other hbefore _ _ := hsame world.world other.world hbefore

/-- Where all is calm, only what is accepted on both sides has to go alike. -/
theorem mirrors_attempt {left : StateM Left (Except Reason Unit)}
    {right : StateM Right (Except Reason Unit)} {after : Left → Right → Prop}
    (hsame : ∀ world other, before world other → (perform left world).1 = .ok () →
      (perform right other).1 = .ok () → after (perform left world).2 (perform right other).2) :
    Mirrors Calm Calm (Both before) (attempt left) (attempt right) fun _ => Both after where
  calm_left _ hcalm := (calm_of_attempt hcalm).1
  calm_right _ hcalm := (calm_of_attempt hcalm).1
  same world other hbefore hleft hright := by
    obtain ⟨-, haccepted⟩ := calm_of_attempt hleft
    obtain ⟨-, haccepted'⟩ := calm_of_attempt hright
    exact ⟨haccepted'.trans haccepted.symm,
      hsame world.world other.world hbefore haccepted haccepted'⟩

end Pairs

/-! ## Watching changes nothing -/

section Plain

variable [NodeAccess (StateM World)] [PreferenceAccess (StateM World)]

/-- A backend that is not watched and the same backend watched. -/
def plain : Simulation World (Watched World) where
  calmLeft _ := True
  calmRight := Calm
  isNode _ := True
  isOpening _ := True
  related _ world watched := watched.world = world
  forget _ hsame := hsame
  isPresent _ :=
    ⟨fun _ _ => trivial, fun _ hcalm => hcalm, by rintro _ _ rfl _ _; exact ⟨rfl, rfl⟩⟩
  read _ :=
    ⟨fun _ _ => trivial, fun _ hcalm => hcalm, by rintro _ _ rfl _ _; exact ⟨rfl, rfl⟩⟩
  write _ _ _ := ⟨fun _ _ => trivial, fun _ hcalm => (calm_of_attempt hcalm).1,
    by rintro _ _ rfl _ _; exact ⟨rfl, rfl⟩⟩
  saved? _ _ :=
    ⟨fun _ _ => trivial, fun _ hcalm => hcalm, by rintro _ _ rfl _ _; exact ⟨rfl, rfl⟩⟩
  save _ _ _ _ := ⟨fun _ _ => trivial, fun _ hcalm => (calm_of_attempt hcalm).1,
    by rintro _ _ rfl _ _; exact ⟨rfl, rfl⟩⟩

theorem attends_plain (engine : Engine) :
    (plain : Simulation World (Watched World)).Attends (fun _ => True) engine where
  opening := trivial
  names _ _ _ _ := trivial
  sessions _ _ _ := ⟨trivial, fun _ _ => ⟨trivial, trivial⟩⟩

variable (engine : Engine) (watched : Watched World)

/-- A command that ends calm began calm, and does what it does unwatched. -/
theorem step_eq (command : Command) (hcalm : (perform (engine.step command) watched).2.Calm) :
    watched.Calm ∧ perform (engine.step command) watched =
      ((perform (engine.step command) watched.world).1,
        ⟨(perform (engine.step command) watched.world).2, false⟩) := by
  have hattends : (plain : Simulation World (Watched World)).Attends (fun _ => True) engine :=
    attends_plain engine
  have hstep : plain.Keeps (fun _ => True) (engine.step command) (engine.step command) :=
    Simulation.step hattends fun _ _ _ _ _ _ _ => trivial
  obtain ⟨hanswer, hworld⟩ := hstep.same watched.world watched rfl trivial hcalm
  refine ⟨hstep.calm_right watched hcalm, ?_⟩
  rw [← hworld, ← hanswer, ← show _ = false from hcalm]
  rfl

theorem run_calm (commands : List Command)
    (hcalm : (perform (engine.run commands) watched).2.Calm) : watched.Calm := by
  induction commands generalizing engine watched with
  | nil => exact hcalm
  | cons command rest ih =>
      rw [engine.run_cons] at hcalm
      exact (step_eq engine watched command (ih _ _ hcalm)).1

end Plain

end Watched

/-! ## Calm runs -/

namespace Engine

variable {World : Type} [NodeAccess (StateM World)] [PreferenceAccess (StateM World)]
  (engine : Engine)

/-- Whether a write or a saving is refused in the course of a run. -/
def refuses (commands : List Command) (world : World) : Bool :=
  (perform (engine.run commands) (Watched.mk world false)).2.refused

/-- In a calm run the first command is calm, and so are those that come after it. -/
theorem calm_of_refuses_cons {command : Command} {rest : List Command} {world : World}
    (hcalm : engine.refuses (command :: rest) world = false) :
    (perform (engine.step command) (Watched.mk world false)).2.Calm ∧
      (perform (engine.step command) world).1.2.refuses rest
        (perform (engine.step command) world).2 = false := by
  unfold refuses at hcalm
  rw [engine.run_cons] at hcalm
  -- The run ends calm, so it was calm after the first command.
  have hfirst := Watched.run_calm _ _ rest hcalm
  have hstep := (Watched.step_eq engine _ command hfirst).2
  simp only [hstep] at hcalm
  exact ⟨hfirst, hcalm⟩

end Engine

end KernelControls
