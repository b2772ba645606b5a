import KernelControls.Proofs.Backends.Auditing
import KernelControls.Proofs.Backends.Correspondence
import Mathlib.Algebra.BigOperators.Group.Finset.Basic
import Mathlib.Algebra.Ring.Nat

/-!
# The last write to a node wins

A bench is given nodes, loses them, is made to refuse writes, and is written to, all under paths in
any spelling.  Whatever the calls were, it shows of every node the text that was put there last, it
refuses exactly the writes to nodes that were marked, and its record holds exactly the writes that
it accepted.

## Strategy

The calls that were accepted, in their order, decide all of it.  One call either is a write to a
marked node and changes nothing, or it is accepted, puts or removes a text under every spelling of
its path, and is recorded if it is a write (`Call.carryOut_cases`).  Whatever bench a run starts
from, a text that is seen afterwards was put there by the last accepted call on its node, or it was
seen before and no accepted call touched the node (`value?_carryOutAll`), and the record has grown
by the accepted writes (`writes_carryOutAll`).  An empty bench has nothing from before.
-/

namespace KernelControls

namespace Bench

/-! ## Calls -/

/-- A call that may change what a bench has of its nodes. -/
inductive Call where
  | insert (path text : String)
  | remove (path : String)
  | refuseWrites (path : String)
  | write (path text : String)
  deriving DecidableEq, Repr

namespace Call

/-- Carry out a call.  Only a write can be refused. -/
def carryOut : Call → StateM Bench (Except NodeError Unit)
  | insert path text => fun bench => (.ok (), bench.insertNode path text)
  | remove path => fun bench => (.ok (), bench.removeNode path)
  | refuseWrites path => fun bench => (.ok (), bench.refuseWrites path)
  | write path text => NodeAccess.write path text

/-- Once it is accepted, the call leaves a text on the node of a path. -/
def Puts (path text : String) : Call → Prop
  | insert named given | write named given => Path.Same named path ∧ given = text
  | remove _ | refuseWrites _ => False

/-- Once it is accepted, the call decides what is seen under a path. -/
def Touches (path : String) : Call → Prop
  | insert named _ | write named _ | remove named => Path.Same named path
  | refuseWrites _ => False

/-- The path and the text of a write. -/
def written? : Call → Option (String × String)
  | write path text => some (path, text)
  | insert _ _ | remove _ | refuseWrites _ => none

end Call

/-- Carry out calls, one after the other, whichever are refused. -/
def carryOutAll (calls : List Call) (bench : Bench) : Bench :=
  (perform (attemptAll Call.carryOut calls) bench).2

/-- The calls that a bench accepts when all are carried out, in order. -/
def accepted (calls : List Call) (bench : Bench) : List Call :=
  Answered.accepted (answersOf Call.carryOut calls bench)

/-- Of some calls, the last one that touches the node of a path puts a text there. -/
def LastPut (calls : List Call) (path text : String) : Prop :=
  ∃ before call after, calls = before ++ call :: after ∧ call.Puts path text ∧
    ∀ later ∈ after, ¬later.Touches path

/-- Some call makes writes to the node of a path fail. -/
def Marked (calls : List Call) (path : String) : Prop :=
  ∃ marked, Call.refuseWrites marked ∈ calls ∧ Path.Same marked path

theorem lastPut_cons {call : Call} {rest : List Call} {path text : String} :
    LastPut (call :: rest) path text ↔
      LastPut rest path text ∨ call.Puts path text ∧ ∀ later ∈ rest, ¬later.Touches path := by
  constructor
  · rintro ⟨before, last, after, hcalls, hputs, hafter⟩
    cases before with
    | nil =>
        obtain ⟨rfl, rfl⟩ := List.cons.inj hcalls
        exact .inr ⟨hputs, hafter⟩
    | cons first before =>
        obtain ⟨rfl, rfl⟩ := List.cons.inj hcalls
        exact .inl ⟨before, last, after, rfl, hputs, hafter⟩
  · rintro (⟨before, last, after, rfl, hputs, hafter⟩ | ⟨hputs, hrest⟩)
    · exact ⟨call :: before, last, after, rfl, hputs, hafter⟩
    · exact ⟨[], call, rest, rfl, hputs, hrest⟩

theorem marked_cons (call : Call) (rest : List Call) (path : String) :
    Marked (call :: rest) path ↔ Marked [call] path ∨ Marked rest path := by
  unfold Marked
  simp only [List.mem_cons, List.not_mem_nil, or_false, or_and_right, exists_or]

/-! ## One call -/

variable {bench : Bench} {path text : String}

/-- A node that is removed is not seen under any spelling, and all others are seen as before. -/
theorem value?_removeNode (bench : Bench) (path other : String) :
    (bench.removeNode path).value? other =
      if Path.Same path other then none else bench.value? other := by
  unfold value? removeNode
  rw [List.find?_filter]
  by_cases hsame : Path.Same path other
  · rw [if_pos hsame, List.find?_eq_none.mpr]
    · rfl
    · intro node _ hboth
      -- What is left is of other nodes.
      obtain ⟨hkept, hnamed⟩ : ¬Path.Same node.1 path ∧ Path.Same node.1 other := by
        simpa using hboth
      exact hkept (hnamed.trans hsame.symm)
  · rw [if_neg hsame]
    congr 2
    -- A node of another file is never among those that go.
    funext node
    by_cases hnamed : Path.Same node.1 other
    · have hkept : ¬Path.Same node.1 path := fun hgone => hsame (hgone.symm.trans hnamed)
      simp [hkept, hnamed]
    · simp [hnamed]

/-- What is seen once a text is put on a node is this text, or it was seen elsewhere before. -/
theorem ite_eq_some_iff_puts {named given : String} {shown : Option String} :
    (if Path.Same path named then some given else shown) = some text ↔
      (Path.Same named path ∧ given = text) ∨ shown = some text ∧ ¬Path.Same named path := by
  by_cases hsame : Path.Same path named
  · have hnamed : Path.Same named path := hsame.symm
    simp [hsame, hnamed]
  · have hnamed : ¬Path.Same named path := fun h => hsame h.symm
    simp [hsame, hnamed]

/-- What an accepted call does: a path that it touches shows what it puts there, all others show
what they did, and a write is recorded. -/
structure Takes (before : Bench) (call : Call) (after : Bench) : Prop where
  value? : ∀ path text, after.value? path = some text ↔
    call.Puts path text ∨ before.value? path = some text ∧ ¬call.Touches path
  writes : after.writes = before.writes ++ call.written?.toList

theorem takes_insert (bench : Bench) (path text : String) :
    Takes bench (.insert path text) (bench.insertNode path text) where
  value? other shown := by
    have hput : (bench.insertNode path text).view.tree = bench.view.tree.put path text := by
      unfold view NodeTree.put insertNode
      rw [sightAt_putNode]
    rw [value?_of_put hput]
    exact ite_eq_some_iff_puts
  writes := (List.append_nil _).symm

theorem takes_remove (bench : Bench) (path : String) :
    Takes bench (.remove path) (bench.removeNode path) where
  value? other shown := by
    rw [value?_removeNode]
    by_cases hsame : Path.Same path other
    · simp [Call.Puts, Call.Touches, hsame]
    · simp [Call.Puts, Call.Touches, hsame]
  writes := (List.append_nil _).symm

theorem takes_refuseWrites (bench : Bench) (path : String) :
    Takes bench (.refuseWrites path) (bench.refuseWrites path) where
  value? other shown := by
    simp only [Call.Puts, Call.Touches, not_false_eq_true, and_true, false_or]
    exact Iff.rfl
  writes := (List.append_nil _).symm

theorem takes_write (haccepts : bench.refuses path = false) (text : String) :
    (bench.writeNode path text).1 = .ok () ∧
      Takes bench (.write path text) (bench.writeNode path text).2 := by
  have hwritten : bench.writeNode path text = (.ok (), { bench with
      nodes := putNode path text bench.nodes
      writes := bench.writes ++ [(path, text)] }) := by
    unfold writeNode
    rw [haccepts]
    rfl
  have haccepted : (bench.writeNode path text).1 = .ok () := by rw [hwritten]
  refine ⟨haccepted, ?_, ?_⟩
  · intro other shown
    rw [value?_writeNode haccepted]
    exact ite_eq_some_iff_puts
  · rw [hwritten]
    rfl

theorem writeNode_of_refuses (hrefuses : bench.refuses path = true) (text : String) :
    bench.writeNode path text = (.error (.unwritable path .permissionDenied), bench) := by
  unfold writeNode
  rw [if_pos hrefuses]

/-- A call is a write to a marked node and changes nothing, or it is accepted. -/
theorem Call.carryOut_cases (call : Call) (bench : Bench) :
    (∃ path text, call = .write path text ∧ bench.refuses path = true ∧
      perform call.carryOut bench = (.error (.unwritable path .permissionDenied), bench)) ∨
    (perform call.carryOut bench).1 = .ok () ∧
      Takes bench call (perform call.carryOut bench).2 := by
  cases call with
  | insert path text => exact .inr ⟨rfl, takes_insert bench path text⟩
  | remove path => exact .inr ⟨rfl, takes_remove bench path⟩
  | refuseWrites path => exact .inr ⟨rfl, takes_refuseWrites bench path⟩
  | write path text =>
      cases hrefuses : bench.refuses path with
      | true => exact .inl ⟨path, text, rfl, hrefuses, writeNode_of_refuses hrefuses text⟩
      | false => exact .inr (takes_write hrefuses text)

/-- Writes to a node are refused once it is marked, and no call takes the mark away. -/
theorem Call.refuses_carryOut (call : Call) (bench : Bench) (path : String) :
    (perform call.carryOut bench).2.refuses path = true ↔
      Marked [call] path ∨ bench.refuses path = true := by
  cases call with
  | refuseWrites marked => simp [carryOut, refuses, Bench.refuseWrites, Marked]
  | insert named given => simp [carryOut, refuses, insertNode, Marked]
  | remove named => simp [carryOut, refuses, removeNode, Marked]
  | write named given =>
      have hkept : (perform (carryOut (.write named given)) bench).2.refuses = bench.refuses :=
        FirmNodes.refuses_write named given bench
      simp [hkept, Marked]

/-! ## Runs of calls -/

/-- A refused call is passed over, and one that is accepted leads the accepted ones. -/
theorem accepted_cons (call : Call) (rest : List Call) (bench : Bench) :
    accepted (call :: rest) bench =
      let next := perform call.carryOut bench
      if next.1.isOk then call :: accepted rest next.2 else accepted rest next.2 :=
  Answered.accepted_cons _ _

theorem carryOutAll_cons (call : Call) (rest : List Call) (bench : Bench) :
    carryOutAll (call :: rest) bench = carryOutAll rest (perform call.carryOut bench).2 := rfl

/-- What holds of accepted calls one after the other, and is left alone by refused ones. -/
theorem accepted_induction {motive : List Call → Bench → Bench → Prop}
    (nil : ∀ bench, motive [] bench bench)
    (cons : ∀ {call rest bench next after}, Takes bench call next → motive rest next after →
      motive (call :: rest) bench after) (calls : List Call) (bench : Bench) :
    motive (accepted calls bench) bench (carryOutAll calls bench) := by
  induction calls generalizing bench with
  | nil => exact nil bench
  | cons call rest ih =>
      rw [accepted_cons, carryOutAll_cons]
      rcases call.carryOut_cases bench with ⟨_, _, -, -, hrefused⟩ | ⟨haccepted, htakes⟩
      · -- The bench is the same, and so is what is accepted from here on.
        rw [hrefused]
        exact ih bench
      · simp only [haccepted]
        exact cons htakes (ih _)

/-- What is seen was put by the last accepted call on the node, or it was seen before and no
accepted call touched the node. -/
theorem value?_carryOutAll (calls : List Call) (bench : Bench) (path text : String) :
    (carryOutAll calls bench).value? path = some text ↔
      LastPut (accepted calls bench) path text ∨
        bench.value? path = some text ∧ ∀ call ∈ accepted calls bench, ¬call.Touches path := by
  refine accepted_induction (motive := fun calls before after => after.value? path = some text ↔
    LastPut calls path text ∨
      before.value? path = some text ∧ ∀ call ∈ calls, ¬call.Touches path) ?_ ?_ calls bench
  · intro bench
    simp [LastPut]
  · intro call rest bench next after htakes ih
    -- What the first call put counts as long as none of the later ones touches the node.
    rw [ih, htakes.value?, lastPut_cons, List.forall_mem_cons, or_and_right, and_assoc, or_assoc]

/-- The accepted writes are recorded behind those from before, in order. -/
theorem writes_carryOutAll (calls : List Call) (bench : Bench) :
    (carryOutAll calls bench).writes =
      bench.writes ++ (accepted calls bench).filterMap Call.written? := by
  refine accepted_induction (motive := fun calls before after =>
    after.writes = before.writes ++ calls.filterMap Call.written?) ?_ ?_ calls bench
  · intro bench
    exact (List.append_nil _).symm
  · intro call rest bench next after htakes ih
    rw [ih, htakes.writes, List.append_assoc]
    cases call <;> rfl

theorem refuses_carryOutAll (calls : List Call) (bench : Bench) (path : String) :
    (carryOutAll calls bench).refuses path = true ↔
      Marked calls path ∨ bench.refuses path = true := by
  induction calls generalizing bench with
  | nil =>
      show bench.refuses path = true ↔ _
      simp [Marked]
  | cons call rest ih =>
      rw [carryOutAll_cons, ih, call.refuses_carryOut, ← or_assoc, marked_cons call rest]
      exact or_congr_left Or.comm

/-! ## Counting writes -/

/-- The places that were written, each as often as it was. -/
def placesWritten (bench : Bench) : Multiset (List Path.Component) :=
  Multiset.ofList (bench.writes.map fun write => Path.components write.1)

theorem writeCount_eq_count (bench : Bench) (path : String) :
    bench.writeCount path = bench.placesWritten.count (Path.components path) := by
  -- Writes are counted by the place of their path, whichever way it is spelled.
  unfold writeCount placesWritten Multiset.count
  rw [Multiset.coe_countP, List.countP_map, ← List.countP_eq_length_filter]
  exact List.countP_congr fun write _ =>
    (decide_eq_true_iff.trans eq_comm).trans decide_eq_true_iff.symm

/-- One spelling for each node written is enough to count all writes: no write is of two nodes, and
none is missed. -/
theorem sum_writeCount (bench : Bench) {names : List String}
    (hdistinct : names.Pairwise fun name other => ¬Path.Same name other)
    (hcovered : ∀ write ∈ bench.writes, ∃ name ∈ names, Path.Same name write.1) :
    (names.map bench.writeCount).sum = bench.totalWrites := by
  let places := names.map Path.components
  have hnodup : places.Nodup := List.pairwise_map.mpr hdistinct
  have hplaces : ∀ place ∈ bench.placesWritten, place ∈ places.toFinset := by
    intro place hplace
    obtain ⟨write, hwrite, rfl⟩ := List.mem_map.mp hplace
    obtain ⟨name, hname, hsame⟩ := hcovered write hwrite
    exact List.mem_toFinset.mpr (List.mem_map.mpr ⟨name, hname, hsame⟩)
  calc (names.map bench.writeCount).sum
      = (places.map fun place => bench.placesWritten.count place).sum := by
        rw [List.map_map]
        exact congrArg List.sum (List.map_congr_left fun name _ => bench.writeCount_eq_count name)
    _ = ∑ place ∈ places.toFinset, bench.placesWritten.count place :=
        (List.sum_toFinset _ hnodup).symm
    _ = bench.placesWritten.card := Multiset.sum_count_eq_card hplaces
    _ = bench.totalWrites := List.length_map _

/-! ## What a bench answers -/

theorem readNode_eq_ok_iff : bench.readNode path = .ok text ↔ bench.value? path = some text := by
  unfold readNode
  cases bench.value? path <;> simp

/-- Without one, the node is said to be missing, under the path that was asked for. -/
theorem readNode_eq_notFound_iff :
    bench.readNode path = .error (.notFound path) ↔ bench.value? path = none := by
  unfold readNode
  cases bench.value? path <;> simp

/-- **The last write wins.**  Carry out any calls on an empty bench, under paths in any spelling.  A
path then has a text exactly if the last accepted call on its node put this text there, by an
insertion or by a write, and so it is read and found to be there.  Another write fails exactly if
some call marked the node, and then nothing at all changes.  The record holds the accepted writes in
their order: those of a node are counted under each of its spellings, and one spelling for each node
written counts them all. -/
theorem last_write_wins (calls : List Call) :
    let bench := carryOutAll calls {}
    let took := accepted calls {}
    let written := took.filterMap Call.written?
    (∀ path,
      (∀ text, bench.value? path = some text ↔ LastPut took path text) ∧
      (∃ present, perform (NodeAccess.isPresent path) bench = (present, bench) ∧
        (present = true ↔ ∃ text, LastPut took path text)) ∧
      (∀ text, perform (NodeAccess.read path) bench = (.ok text, bench) ↔
        LastPut took path text) ∧
      (perform (NodeAccess.read path) bench = (.error (.notFound path), bench) ↔
        ∀ text, ¬LastPut took path text) ∧
      (∀ text,
        let asked := perform (NodeAccess.write path text) bench
        Marked calls path ∧ asked = (.error (.unwritable path .permissionDenied), bench) ∨
          ¬Marked calls path ∧ asked.1 = .ok ()) ∧
      bench.writeCount path = written.countP fun write => Path.Same write.1 path) ∧
    bench.writes = written ∧
    bench.totalWrites = written.length ∧
    ∀ names : List String, (names.Pairwise fun name other => ¬Path.Same name other) →
      (∀ write ∈ written, ∃ name ∈ names, Path.Same name write.1) →
      (names.map bench.writeCount).sum = bench.totalWrites := by
  intro bench took written
  have hvalue : ∀ path text, bench.value? path = some text ↔ LastPut took path text := by
    intro path text
    -- The empty bench had no text that could be left from before.
    rw [value?_carryOutAll]
    exact or_iff_left fun hbefore => Option.some_ne_none text hbefore.1.symm
  have hwrites : bench.writes = written := writes_carryOutAll calls {}
  have hmarked : ∀ path, bench.refuses path = true ↔ Marked calls path := fun path =>
    (refuses_carryOutAll calls {} path).trans (or_iff_left Bool.false_ne_true)
  refine ⟨fun path => ⟨hvalue path, ?_, ?_, ?_, ?_, ?_⟩, hwrites, ?_, ?_⟩
  · refine ⟨(bench.value? path).isSome, rfl, ?_⟩
    rw [Option.isSome_iff_exists]
    exact exists_congr (hvalue path)
  · intro text
    rw [← hvalue, ← readNode_eq_ok_iff]
    exact Prod.mk_inj.trans (and_iff_left rfl)
  · simp only [← hvalue]
    rw [← Option.eq_none_iff_forall_ne_some, ← readNode_eq_notFound_iff]
    exact Prod.mk_inj.trans (and_iff_left rfl)
  · intro text asked
    cases hrefuses : bench.refuses path with
    | true => exact .inl ⟨(hmarked path).mp hrefuses, writeNode_of_refuses hrefuses text⟩
    | false =>
        refine .inr ⟨fun h => ?_, (takes_write hrefuses text).1⟩
        rw [(hmarked path).mpr h] at hrefuses
        cases hrefuses
  · rw [← hwrites, List.countP_eq_length_filter]
    rfl
  · rw [← hwrites]
    rfl
  · intro names hdistinct hcovered
    exact bench.sum_writeCount hdistinct (hwrites ▸ hcovered)

/-- Two nodes under seven spellings.  One is marked and refuses its third write, the other is lost
and written again. -/
theorem writes_of_two_nodes :
    let calls : List Call := [.insert "/n/level" "0", .write "/n//level" "1",
      .write "/n/./level/" "2", .refuseWrites "//n/level", .write "/n/level" "3",
      .write "/lamp" "4", .remove "/lamp/", .write "//lamp" "5"]
    let bench := carryOutAll calls {}
    bench.nodes = [("/n/level", "2"), ("//lamp", "5")] ∧
      (["/n/level", "/lamp"].map bench.writeCount).sum = bench.totalWrites ∧
      bench.totalWrites = 4 := by
  intro calls bench
  obtain ⟨-, -, -, hsum⟩ := last_write_wins calls
  exact ⟨by decide +kernel, hsum ["/n/level", "/lamp"] (by decide +kernel) (by decide +kernel),
    by decide +kernel⟩

end Bench

end KernelControls
