import KernelControls.Bench
import KernelControls.Proofs.Engine.Operations
import Mathlib.Logic.Function.Basic

/-!
# Backends that keep their word

The engine works on whatever gives access to nodes and preferences: the files of a machine, a
bench in memory, a stand-in that fails now and then.  Laws about runs ask little of it.

## Strategy

A `Scene` is what can be seen of a backend: the place that every path names with what is seen
there, and the values that an opening of the store has saved.  A backend is lawful when asking
changes nothing that can be seen, an accepted write puts its text at its place and changes
nothing else, and an accepted saving sets its value.  A refused write may leave anything at its
own place, so the laws hold for writes that stop half way.  Nothing is said about when a
backend refuses.

Nodes and store have their laws apart, so any lawful nodes can stand beside any lawful store:
that is `Paired`.  The bench is both at once.
-/

namespace KernelControls

/-! ## Trees of nodes -/

/-- What is seen at a place. -/
inductive Sight where
  | absent
  | unreadable
  | text (content : String)
  deriving DecidableEq, Repr

/-- The place that every path names, and what is seen at every place. -/
structure NodeTree (Place : Type) where
  place : String → Place
  sight : Place → Sight

namespace NodeTree

variable {Place : Type}

/-- What is seen under a path. -/
def look (tree : NodeTree Place) (path : String) : Sight :=
  tree.sight (tree.place path)

/-- Whether anything is there under a path. -/
def isPresent (tree : NodeTree Place) (path : String) : Bool :=
  tree.look path ≠ .absent

/-- Two trees in which paths name the same places, and that differ at most at the places of
some paths. -/
structure EqOutside (paths : List String) (tree other : NodeTree Place) : Prop where
  place : tree.place = other.place
  sight : ∀ place, place ∉ paths.map other.place → tree.sight place = other.sight place

namespace EqOutside

variable {tree middle other : NodeTree Place} {paths more : List String}

theorem refl (paths : List String) (tree : NodeTree Place) : EqOutside paths tree tree :=
  ⟨rfl, fun _ _ => rfl⟩

theorem mono (h : EqOutside paths tree other) (hsub : paths ⊆ more) :
    EqOutside more tree other where
  place := h.place
  sight place hplace := h.sight place fun hmem => hplace (List.map_subset _ hsub hmem)

theorem trans (hfirst : EqOutside paths tree middle) (hsecond : EqOutside paths middle other) :
    EqOutside paths tree other where
  place := hfirst.place.trans hsecond.place
  sight place hplace := by
    rw [hfirst.sight place (hsecond.place ▸ hplace), hsecond.sight place hplace]

theorem eq (h : EqOutside [] tree other) : tree = other := by
  obtain ⟨place, sight⟩ := tree
  obtain ⟨hplace, hsight⟩ := h
  obtain rfl : sight = other.sight := funext fun place => hsight place List.not_mem_nil
  obtain rfl : place = other.place := hplace
  rfl

end EqOutside

variable [DecidableEq Place]

/-- The tree with a text put under a path. -/
def put (tree : NodeTree Place) (path text : String) : NodeTree Place :=
  { tree with sight := Function.update tree.sight (tree.place path) (.text text) }

/-- The tree with texts put under paths, one after the other. -/
def putAll (tree : NodeTree Place) : List (String × String) → NodeTree Place
  | [] => tree
  | node :: rest => (tree.put node.1 node.2).putAll rest

variable (tree : NodeTree Place) (path text : String)

@[simp] theorem sight_put (place : Place) : (tree.put path text).sight place =
    if place = tree.place path then .text text else tree.sight place := by
  show Function.update tree.sight (tree.place path) (Sight.text text) place = _
  rw [Function.update_apply]

theorem eqOutside_put : EqOutside [path] (tree.put path text) tree where
  place := rfl
  sight place hplace := by
    have hother : place ≠ tree.place path := fun h => hplace (by simp [h])
    simp [hother]

@[simp] theorem place_putAll (nodes : List (String × String)) :
    (tree.putAll nodes).place = tree.place := by
  induction nodes generalizing tree with
  | nil => rfl
  | cons node rest ih => exact ih _

/-- Away from the places of the paths, putting texts changes nothing. -/
theorem sight_putAll_of_notMem {nodes : List (String × String)} {place : Place}
    (hplace : ∀ node ∈ nodes, place ≠ tree.place node.1) :
    (tree.putAll nodes).sight place = tree.sight place := by
  induction nodes generalizing tree with
  | nil => rfl
  | cons node rest ih =>
      have hfirst := hplace node List.mem_cons_self
      have hrest : ∀ later ∈ rest, place ≠ (tree.put node.1 node.2).place later.1 :=
        fun later hlater => hplace later (List.mem_cons_of_mem _ hlater)
      rw [putAll, ih _ hrest, sight_put, if_neg hfirst]

/-- Under paths of distinct places, every text that was put is seen. -/
theorem look_putAll {nodes : List (String × String)}
    (hdistinct : (nodes.map fun node => tree.place node.1).Nodup) {node : String × String}
    (hnode : node ∈ nodes) : (tree.putAll nodes).look node.1 = .text node.2 := by
  induction nodes generalizing tree with
  | nil => cases hnode
  | cons first rest ih =>
      have ⟨hfirst, hrest⟩ := List.nodup_cons.mp hdistinct
      rcases List.mem_cons.mp hnode with hhere | hlater
      · -- The first text stays, since no later path names its place.
        have hkept : ∀ later ∈ rest,
            tree.place node.1 ≠ (tree.put first.1 first.2).place later.1 := by
          intro later hlater hsame
          exact hfirst (List.mem_map.mpr ⟨later, hlater, by rw [← hhere]; exact hsame.symm⟩)
        unfold look
        rw [place_putAll, putAll, sight_putAll_of_notMem _ hkept, sight_put, hhere, if_pos rfl]
      · exact ih (tree.put first.1 first.2) hrest hlater

/-- Trees that differ only where texts are put do not differ any more afterwards. -/
theorem putAll_congr {tree other : NodeTree Place} {nodes : List (String × String)}
    (houtside : EqOutside (nodes.map Prod.fst) tree other) :
    tree.putAll nodes = other.putAll nodes := by
  induction nodes generalizing tree other with
  | nil => exact houtside.eq
  | cons node rest ih =>
      refine ih ⟨houtside.place, fun place hplace => ?_⟩
      rw [sight_put, sight_put, houtside.place]
      split
      · rfl
      · next hother =>
          refine houtside.sight place fun hmem => ?_
          -- The trees differ at most where a text is put now or later.
          rcases List.mem_cons.mp hmem with hhere | hlater
          · exact hother hhere
          · exact hplace hlater

theorem put_shown {tree : NodeTree Place} {path text : String}
    (hshown : tree.look path = .text text) : tree.put path text = tree := by
  refine EqOutside.eq ⟨rfl, fun place _ => ?_⟩
  rw [sight_put]
  split
  · next hhere => rw [hhere]; exact hshown.symm
  · rfl

theorem putAll_shown {tree : NodeTree Place} {nodes : List (String × String)}
    (hshown : ∀ node ∈ nodes, tree.look node.1 = .text node.2) : tree.putAll nodes = tree := by
  induction nodes with
  | nil => rfl
  | cons node rest ih =>
      rw [putAll, put_shown (hshown node List.mem_cons_self)]
      exact ih fun later hlater => hshown later (List.mem_cons_of_mem _ hlater)

/-- Putting back what a tree showed under some paths undoes every change under them. -/
theorem putAll_eq_of_eqOutside {tree other : NodeTree Place} {nodes : List (String × String)}
    (hshown : ∀ node ∈ nodes, other.look node.1 = .text node.2)
    (houtside : EqOutside (nodes.map Prod.fst) tree other) : tree.putAll nodes = other :=
  (putAll_congr houtside).trans (putAll_shown hshown)

theorem eqOutside_putAll (nodes : List (String × String)) :
    EqOutside (nodes.map Prod.fst) (tree.putAll nodes) tree := by
  induction nodes generalizing tree with
  | nil => exact .refl _ _
  | cons node rest ih =>
      have hfirst := (tree.eqOutside_put node.1 node.2).mono
        (List.cons_subset_cons _ (List.nil_subset (rest.map Prod.fst)))
      exact ((ih (tree.put node.1 node.2)).mono (List.subset_cons_self _ _)).trans hfirst

@[simp] theorem putAll_putAll (nodes : List (String × String)) :
    (tree.putAll nodes).putAll nodes = tree.putAll nodes :=
  putAll_congr (tree.eqOutside_putAll nodes)

@[simp] theorem putAll_append (first second : List (String × String)) :
    tree.putAll (first ++ second) = (tree.putAll first).putAll second := by
  induction first generalizing tree with
  | nil => rfl
  | cons node rest ih => exact ih (tree.put node.1 node.2)

theorem isPresent_put {tree : NodeTree Place} {path : String}
    (hpresent : tree.isPresent path = true) (text : String) :
    (tree.put path text).isPresent = tree.isPresent := by
  funext other
  have hthere : tree.look path ≠ .absent := of_decide_eq_true hpresent
  unfold isPresent look
  show decide ((tree.put path text).sight (tree.place other) ≠ .absent) = _
  rw [sight_put]
  split
  · next hsame =>
      -- The node was there, and it shows a text now.
      rw [hsame]
      exact decide_eq_decide.mpr (iff_of_true Sight.noConfusion hthere)
  · rfl

end NodeTree

/-! ## Lawful backends -/

/-- Nodes that keep their word. -/
class LawfulNodes (World : Type) (Place : outParam Type) [DecidableEq Place]
    [NodeAccess (StateM World)] where
  /-- What is seen of the nodes. -/
  tree : World → NodeTree Place
  /-- A node is said to be there when something is seen. -/
  isPresent_answer : ∀ path world,
    (perform (NodeAccess.isPresent path) world).1 = (tree world).isPresent path
  isPresent_tree : ∀ path world, tree (perform (NodeAccess.isPresent path) world).2 = tree world
  /-- A text that is seen is read. -/
  read_answer : ∀ path text world, (tree world).look path = .text text →
    (perform (NodeAccess.read path) world).1 = .ok text
  read_tree : ∀ path world, tree (perform (NodeAccess.read path) world).2 = tree world
  /-- An accepted write puts the text at its place. -/
  write_accepted : ∀ path text world,
    (perform (NodeAccess.write path text) world).1 = .ok () →
    tree (perform (NodeAccess.write path text) world).2 = (tree world).put path text
  /-- A refused write changes no other place. -/
  write_outside : ∀ path text world,
    NodeTree.EqOutside [path] (tree (perform (NodeAccess.write path text) world).2) (tree world)

/-- A store that keeps its word. -/
class LawfulStore (World : Type) [PreferenceAccess (StateM World)] where
  /-- The values that are saved, as every opening sees them. -/
  saved : World → Opening → String → Option Int64
  saved_answer : ∀ opening key world,
    (perform (PreferenceAccess.saved? opening key) world).1 = saved world opening key
  saved_saved : ∀ opening key world,
    saved (perform (PreferenceAccess.saved? opening key) world).2 = saved world
  /-- An accepted saving sets the value of its key. -/
  save_accepted : ∀ opening key value world,
    (perform (PreferenceAccess.save opening key value) world).1 = .ok () →
    saved (perform (PreferenceAccess.save opening key value) world).2 opening =
      Function.update (saved world opening) key (some value)

/-- Nodes and a store that keep their word and leave each other alone. -/
class LawfulBackend (World : Type) (Place : outParam Type) [DecidableEq Place]
    [NodeAccess (StateM World)] [PreferenceAccess (StateM World)] extends
    LawfulNodes World Place, LawfulStore World where
  isPresent_saved : ∀ path world,
    saved (perform (NodeAccess.isPresent path) world).2 = saved world
  read_saved : ∀ path world, saved (perform (NodeAccess.read path) world).2 = saved world
  write_saved : ∀ path text world,
    saved (perform (NodeAccess.write path text) world).2 = saved world
  saved_tree : ∀ opening key world,
    tree (perform (PreferenceAccess.saved? opening key) world).2 = tree world
  save_tree : ∀ opening key value world,
    tree (perform (PreferenceAccess.save opening key value) world).2 = tree world

/-- What can be seen of a backend: its nodes, and the values saved in each opening of its
store. -/
structure Scene (Place : Type) where
  tree : NodeTree Place
  saved : Opening → String → Option Int64

/-- What can be seen of a lawful backend. -/
def scene {World Place : Type} [DecidableEq Place] [NodeAccess (StateM World)]
    [PreferenceAccess (StateM World)] [LawfulBackend World Place] (world : World) : Scene Place :=
  ⟨LawfulNodes.tree world, LawfulStore.saved world⟩

/-! ## Nodes beside a store -/

/-- Nodes and a store that are no part of one another. -/
structure Paired (Nodes Store : Type) where
  nodes : Nodes
  store : Store

namespace Paired

variable {Nodes Store Place : Type}

instance [NodeAccess (StateM Nodes)] : NodeAccess (StateM (Paired Nodes Store)) where
  isPresent path := fun pair =>
    let asked := perform (NodeAccess.isPresent path) pair.nodes
    (asked.1, { pair with nodes := asked.2 })
  read path := fun pair =>
    let asked := perform (NodeAccess.read path) pair.nodes
    (asked.1, { pair with nodes := asked.2 })
  write path text := fun pair =>
    let written := perform (NodeAccess.write path text) pair.nodes
    (written.1, { pair with nodes := written.2 })

instance [PreferenceAccess (StateM Store)] : PreferenceAccess (StateM (Paired Nodes Store)) where
  saved? opening key := fun pair =>
    let asked := perform (PreferenceAccess.saved? opening key) pair.store
    (asked.1, { pair with store := asked.2 })
  save opening key value := fun pair =>
    let saved := perform (PreferenceAccess.save opening key value) pair.store
    (saved.1, { pair with store := saved.2 })

instance [DecidableEq Place] [NodeAccess (StateM Nodes)] [PreferenceAccess (StateM Store)]
    [LawfulNodes Nodes Place] [LawfulStore Store] : LawfulBackend (Paired Nodes Store) Place where
  tree pair := LawfulNodes.tree pair.nodes
  isPresent_answer path pair := LawfulNodes.isPresent_answer path pair.nodes
  isPresent_tree path pair := LawfulNodes.isPresent_tree path pair.nodes
  read_answer path text pair := LawfulNodes.read_answer path text pair.nodes
  read_tree path pair := LawfulNodes.read_tree path pair.nodes
  write_accepted path text pair := LawfulNodes.write_accepted path text pair.nodes
  write_outside path text pair := LawfulNodes.write_outside path text pair.nodes
  saved pair := LawfulStore.saved pair.store
  saved_answer opening key pair := LawfulStore.saved_answer opening key pair.store
  saved_saved opening key pair := LawfulStore.saved_saved opening key pair.store
  save_accepted opening key value pair :=
    LawfulStore.save_accepted opening key value pair.store
  isPresent_saved _ _ := rfl
  read_saved _ _ := rfl
  write_saved _ _ _ := rfl
  saved_tree _ _ _ := rfl
  save_tree _ _ _ _ := rfl

end Paired

/-! ## The bench is lawful -/

namespace Bench

/-- The node at a place, by the components of its path. -/
def sightAt (nodes : List (String × String)) (place : List Path.Component) : Sight :=
  match nodes.find? fun node => Path.components node.1 = place with
  | some node => .text node.2
  | none => .absent

/-- What can be seen of a bench: nodes by their components, and the same values in every
opening. -/
def view (bench : Bench) : Scene (List Path.Component) where
  tree := ⟨Path.components, sightAt bench.nodes⟩
  saved _ key := bench.preferences.get? key

theorem sightAt_cons (node : String × String) (rest : List (String × String))
    (place : List Path.Component) : sightAt (node :: rest) place =
      if Path.components node.1 = place then .text node.2 else sightAt rest place := by
  unfold sightAt
  rw [List.find?_cons]
  by_cases hhere : Path.components node.1 = place
  · simp [hhere]
  · simp [hhere]

theorem sightAt_putNode (path text : String) (nodes : List (String × String)) :
    sightAt (putNode path text nodes) =
      Function.update (sightAt nodes) (Path.components path) (.text text) := by
  funext place
  rw [Function.update_apply]
  induction nodes with
  | nil => simp only [putNode, sightAt_cons, eq_comm]
  | cons node rest ih =>
      unfold putNode
      by_cases hsame : Path.Same node.1 path
      · rw [if_pos hsame, sightAt_cons, sightAt_cons,
          show Path.components node.1 = Path.components path from hsame]
        by_cases hplace : place = Path.components path
        · rw [if_pos hplace.symm, if_pos hplace]
        · rw [if_neg (Ne.symm hplace), if_neg hplace, if_neg (Ne.symm hplace)]
      · rw [if_neg hsame, sightAt_cons, sightAt_cons, ih]
        by_cases hhere : Path.components node.1 = place
        · have hplace : place ≠ Path.components path := fun h => hsame (hhere.trans h)
          rw [if_pos hhere, if_pos hhere, if_neg hplace]
        · rw [if_neg hhere, if_neg hhere]

theorem look_eq_value? (bench : Bench) (path : String) :
    bench.view.tree.look path = match bench.value? path with
      | some text => .text text
      | none => .absent := by
  show sightAt bench.nodes (Path.components path) = _
  unfold sightAt value?
  show _ = match (bench.nodes.find? fun node =>
    Path.components node.1 = Path.components path).map Prod.snd with
      | some text => Sight.text text
      | none => .absent
  cases bench.nodes.find? fun node => Path.components node.1 = Path.components path <;> rfl

theorem writeNode_cases (bench : Bench) (path text : String) :
    bench.writeNode path text = (.error (.unwritable path .permissionDenied), bench) ∨
      (bench.writeNode path text).1 = .ok () ∧
        (bench.writeNode path text).2.view =
          { bench.view with tree := bench.view.tree.put path text } := by
  unfold writeNode
  split
  · exact .inl rfl
  · refine .inr ⟨rfl, ?_⟩
    unfold view NodeTree.put
    rw [sightAt_putNode]

instance : LawfulBackend Bench (List Path.Component) where
  tree bench := bench.view.tree
  saved bench := bench.view.saved
  isPresent_answer path bench := by
    show (bench.value? path).isSome = decide (bench.view.tree.look path ≠ .absent)
    rw [look_eq_value?]
    cases bench.value? path <;> simp
  isPresent_tree _ _ := rfl
  read_answer path text bench hlook := by
    show bench.readNode path = .ok text
    rw [look_eq_value?] at hlook
    unfold readNode
    cases hvalue : bench.value? path with
    | none => rw [hvalue] at hlook; cases hlook
    | some found => rw [hvalue] at hlook; cases hlook; rfl
  read_tree _ _ := rfl
  write_accepted path text bench haccepted := by
    rcases bench.writeNode_cases path text with hrefused | ⟨-, hview⟩
    · rw [show perform (NodeAccess.write path text) bench = _ from hrefused] at haccepted
      cases haccepted
    · exact congrArg Scene.tree hview
  write_outside path text bench := by
    show NodeTree.EqOutside [path] (bench.writeNode path text).2.view.tree bench.view.tree
    rcases bench.writeNode_cases path text with hrefused | ⟨-, hview⟩
    · rw [hrefused]
      exact .refl _ _
    · rw [hview]
      exact bench.view.tree.eqOutside_put path text
  isPresent_saved _ _ := rfl
  read_saved _ _ := rfl
  write_saved path text bench := by
    show (bench.writeNode path text).2.view.saved = bench.view.saved
    rcases bench.writeNode_cases path text with hrefused | ⟨-, hview⟩
    · rw [hrefused]
    · rw [hview]
  saved_answer _ _ _ := rfl
  saved_saved _ _ _ := rfl
  saved_tree _ _ _ := rfl
  save_tree opening key value bench := by
    show (bench.save key value).2.view.tree = bench.view.tree
    unfold save
    split <;> rfl
  save_accepted opening key value bench haccepted := by
    replace haccepted : (bench.save key value).1 = .ok () := haccepted
    show (bench.save key value).2.view.saved opening = _
    unfold save at haccepted ⊢
    split at haccepted
    · cases haccepted
    · next hsaves =>
        rw [if_neg hsaves]
        funext other
        show (bench.preferences.insert key value).get? other = _
        rw [Preferences.get?_insert, Function.update_apply]
        rfl

end Bench

end KernelControls
