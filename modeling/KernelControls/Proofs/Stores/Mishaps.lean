import KernelControls.Proofs.Stores.Safekeeping

/-!
# Backends with mishaps

Any write may be refused, and a refused write may leave anything on its node; any saving may be
refused.  A backend with a script of mishaps does all of this, in any order that one can write down.

## Strategy

A script has one entry for each attempt to write or to save, and where it says nothing the backend
below is asked.  Whatever the backend below keeps safe is kept safe with every script
(`Safekeeping.unreliable`), because a mishap is at most a write to the same node.  The bench keeps
its preferences beside its nodes, so it is in safekeeping by itself.
-/

namespace KernelControls

/-- What can go wrong with an attempt: it is refused, or a write is refused after it left a text on
its node. -/
inductive Mishap where
  | refused
  | garbled (text : String)
  deriving DecidableEq, Repr

/-- A backend with a script of mishaps.  Each attempt to write or to save takes one entry, and when
there are no more, all goes well. -/
structure Unreliable (World : Type) where
  script : List (Option Mishap)
  world : World

namespace Unreliable

variable {World Value : Type}

/-- What goes wrong with the next attempt. -/
def mishap? (unreliable : Unreliable World) : Option Mishap :=
  unreliable.script.head?.join

/-- The backend after an attempt. -/
def attempted (unreliable : Unreliable World) (world : World) : Unreliable World :=
  ⟨unreliable.script.tail, world⟩

/-- Ask the backend below. -/
def ask (action : StateM World Value) : StateM (Unreliable World) Value := fun unreliable =>
  let asked := perform action unreliable.world
  (asked.1, { unreliable with world := asked.2 })

section Nodes

variable [NodeAccess (StateM World)]

/-- Write a node, unless something goes wrong. -/
def write (path text : String) : StateM (Unreliable World) (Except NodeError Unit) :=
  fun unreliable =>
    match unreliable.mishap? with
    | none =>
      let written := perform (NodeAccess.write path text) unreliable.world
      (written.1, unreliable.attempted written.2)
    | some .refused =>
      (.error (.unwritable path .permissionDenied), unreliable.attempted unreliable.world)
    | some (.garbled left) =>
      let garbled := perform (NodeAccess.write path left) unreliable.world
      (.error (.unwritable path .permissionDenied), unreliable.attempted garbled.2)

instance : NodeAccess (StateM (Unreliable World)) where
  isPresent path := ask (NodeAccess.isPresent path)
  read path := ask (NodeAccess.read path)
  write := write

/-- After a write the backend below is as it was, or some text was written to the same node. -/
theorem write_world (path text : String) (unreliable : Unreliable World) :
    (perform (NodeAccess.write path text) unreliable).2.world = unreliable.world ∨
    ∃ left, (perform (NodeAccess.write path text) unreliable).2.world =
      (perform (NodeAccess.write path left) unreliable.world).2 := by
  show (write path text unreliable).2.world = _ ∨ ∃ left, (write path text unreliable).2.world = _
  unfold write
  split
  · exact .inr ⟨text, rfl⟩
  · exact .inl rfl
  · next left _ => exact .inr ⟨left, rfl⟩

end Nodes

section Preferences

variable [PreferenceAccess (StateM World)]

/-- Save a value, unless something goes wrong. -/
def save (opening : Opening) (key : String) (value : Int64) :
    StateM (Unreliable World) (Except PreferenceError Unit) := fun unreliable =>
  match unreliable.mishap? with
  | none =>
    let saved := perform (PreferenceAccess.save opening key value) unreliable.world
    (saved.1, unreliable.attempted saved.2)
  | some _ => (.error (.io .permissionDenied), unreliable.attempted unreliable.world)

instance : PreferenceAccess (StateM (Unreliable World)) where
  saved? opening key := ask (PreferenceAccess.saved? opening key)
  save := save

/-- A saving is refused and nothing changes, or the backend below is asked. -/
theorem save_cases (opening : Opening) (key : String) (value : Int64)
    (unreliable : Unreliable World) :
    let saved := perform (PreferenceAccess.save opening key value) unreliable.world
    (∃ error, perform (PreferenceAccess.save opening key value) unreliable =
      (.error error, unreliable.attempted unreliable.world)) ∨
    perform (PreferenceAccess.save opening key value) unreliable =
      (saved.1, unreliable.attempted saved.2) := by
  intro saved
  show (∃ error, save opening key value unreliable = _) ∨ save opening key value unreliable = _
  unfold save
  split
  · exact .inr rfl
  · exact .inl ⟨_, rfl⟩

end Preferences

end Unreliable

/-! ## Mishaps take nothing from what is kept -/

/-- With mishaps the same is kept, wherever the attempts that go wrong are. -/
def Safekeeping.unreliable {World : Type} [NodeAccess (StateM World)]
    [PreferenceAccess (StateM World)] (keeping : Safekeeping World) :
    Safekeeping (Unreliable World) where
  opening := keeping.opening
  isNode := keeping.isNode
  Sound unreliable := keeping.Sound unreliable.world
  kept unreliable := keeping.kept unreliable.world
  harmless known :=
    { isPresent := fun path unreliable => (keeping.harmless known).isPresent path unreliable.world
      read := fun path unreliable => (keeping.harmless known).read path unreliable.world
      saved? := fun opening key unreliable =>
        (keeping.harmless known).saved? opening key unreliable.world
      write := by
        intro path text hnode unreliable hholds
        rcases unreliable.write_world path text with hsame | ⟨left, hleft⟩
        · rw [hsame]
          exact hholds
        · rw [hleft]
          exact (keeping.harmless known).write path left hnode unreliable.world hholds }
  answer key unreliable := keeping.answer key unreliable.world
  sound_save key value unreliable hsound := by
    rcases unreliable.save_cases keeping.opening key value with ⟨error, hrefused⟩ | hsaved
    · rw [hrefused]
      exact hsound
    · rw [hsaved]
      exact keeping.sound_save key value unreliable.world hsound
  save_accepted key value unreliable hsound haccepted := by
    rcases unreliable.save_cases keeping.opening key value with ⟨error, hrefused⟩ | hsaved
    · rw [hrefused] at haccepted
      cases haccepted
    · rw [hsaved] at haccepted ⊢
      exact keeping.save_accepted key value unreliable.world hsound haccepted
  save_refused key value error unreliable hsound herror := by
    rcases unreliable.save_cases keeping.opening key value with ⟨_, hrefused⟩ | hsaved
    · rw [hrefused]
      rfl
    · rw [hsaved] at herror ⊢
      exact keeping.save_refused key value error unreliable.world hsound herror

/-! ## The bench -/

namespace Bench

theorem preferences_save (bench : Bench) (key : String) (value : Int64) :
    (∃ error, bench.save key value = (.error error, bench)) ∨
      bench.save key value =
        (.ok (), { bench with preferences := bench.preferences.insert key value }) := by
  unfold save
  split
  · exact .inl ⟨_, rfl⟩
  · exact .inr rfl

/-- What a bench keeps; it keeps nothing in a file. -/
def kept (bench : Bench) : Kept :=
  ⟨bench.preferences.get?, none⟩

/-- The preferences of a bench are in safekeeping.  All its nodes are beside them. -/
def safekeeping (opening : Opening) : Safekeeping Bench where
  opening := opening
  isNode _ := True
  Sound _ := True
  kept := kept
  harmless known :=
    { isPresent := fun _ _ hholds => hholds
      read := fun _ _ hholds => hholds
      saved? := fun _ _ _ hholds => hholds
      write := by
        intro path text _ bench hholds
        show True ∧ (bench.writeNode path text).2.kept = known
        unfold kept
        rw [preferences_writeNode]
        exact hholds }
  answer _ _ _ := rfl
  sound_save _ _ _ _ := trivial
  save_accepted key value bench _ haccepted := by
    show (bench.save key value).2.preferences.get? = _
    rcases bench.preferences_save key value with ⟨error, hrefused⟩ | hsaved
    · rw [show perform (PreferenceAccess.save opening key value) bench = _ from hrefused]
        at haccepted
      cases haccepted
    · rw [hsaved]
      funext other
      rw [Function.update_apply]
      exact bench.preferences.get?_insert key other value
  save_refused key value error bench _ herror := by
    show (bench.save key value).2.preferences.get? = _
    rcases bench.preferences_save key value with ⟨_, hrefused⟩ | hsaved
    · rw [hrefused]
      rfl
    · rw [show perform (PreferenceAccess.save opening key value) bench = _ from hsaved] at herror
      cases herror

end Bench

end KernelControls
