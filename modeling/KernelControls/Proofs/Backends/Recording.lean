import KernelControls.Proofs.Backends.Effects

/-!
# Recording what is attempted

The nodes alone do not tell what an operation did to the hardware: a write may have been refused,
or have put a text that was there already.  An audited backend passes every request on, answers
what it was answered, and notes each write and each saving that was attempted together with whether
it was accepted.  The requests alone are its record.

## Strategy

Nodes are written and values are saved in batches, so `record_attemptAll` says once what a batch
adds to a record of any kind.  The lemmas about batches of edits are cases of it: writing adds a
node for every edit, and saving adds an entry for every edit.  That neither adds to the record of
the other is a property of the world that a batch maintains.
-/

namespace KernelControls

/-! ## Answers -/

/-- Requests in the order in which they were made, each with whether it was accepted. -/
abbrev Answered (Request : Type) := List (Request × Bool)

namespace Answered

variable {Request Other : Type} (answered : Answered Request)

/-- All requests, in order. -/
def requests : List Request :=
  answered.map Prod.fst

/-- The accepted requests, in order. -/
def accepted : List Request :=
  (answered.filter Prod.snd).map Prod.fst

/-- The refused requests, in order. -/
def refused : List Request :=
  (answered.filter fun entry => !entry.2).map Prod.fst

/-- The same answers, to requests of another form. -/
def inForm (form : Request → Other) (answered : Answered Request) : Answered Other :=
  answered.map fun entry => (form entry.1, entry.2)

theorem requests_concat (request : Request) (answer : Bool) :
    requests (answered ++ [(request, answer)]) = requests answered ++ [request] :=
  List.map_append

theorem accepted_cons (entry : Request × Bool) : accepted (entry :: answered) =
    if entry.2 then entry.1 :: accepted answered else accepted answered := by
  unfold accepted
  rw [List.filter_cons]
  split <;> rfl

theorem refused_cons (entry : Request × Bool) : refused (entry :: answered) =
    if entry.2 then refused answered else entry.1 :: refused answered := by
  unfold refused
  rw [List.filter_cons]
  cases entry.2 <;> rfl

theorem length_accepted_add_refused :
    (accepted answered).length + (refused answered).length = (requests answered).length := by
  unfold accepted refused requests
  rw [List.length_map, List.length_map, List.length_map]
  exact (List.length_eq_length_filter_add Prod.snd).symm

theorem accepted_eq_requests (hclean : refused answered = []) :
    accepted answered = requests answered := by
  unfold accepted requests
  congr 1
  refine List.filter_eq_self.mpr fun entry hentry => ?_
  have hnone := List.filter_eq_nil_iff.mp (List.map_eq_nil_iff.mp hclean) entry hentry
  rwa [Bool.not_eq_true', Bool.not_eq_false] at hnone

end Answered

/-! ## Audited backends -/

/-- A backend, with the writes and the savings that were attempted on it so far, and whether they
were accepted. -/
structure Audited (World : Type) where
  world : World
  writes : Answered (String × String) := []
  saves : Answered (String × Int64) := []

namespace Audited

variable {World Value : Type}

/-- Ask the backend below. -/
def ask (action : StateM World Value) : StateM (Audited World) Value := fun audited =>
  let asked := perform action audited.world
  (asked.1, { audited with world := asked.2 })

instance [NodeAccess (StateM World)] : NodeAccess (StateM (Audited World)) where
  isPresent path := ask (NodeAccess.isPresent path)
  read path := ask (NodeAccess.read path)
  write path text := fun audited =>
    let written := perform (NodeAccess.write path text) audited.world
    (written.1, { audited with
      world := written.2
      writes := audited.writes ++ [((path, text), written.1.isOk)] })

instance [PreferenceAccess (StateM World)] : PreferenceAccess (StateM (Audited World)) where
  saved? opening key := ask (PreferenceAccess.saved? opening key)
  save opening key value := fun audited =>
    let saved := perform (PreferenceAccess.save opening key value) audited.world
    (saved.1, { audited with
      world := saved.2
      saves := audited.saves ++ [((key, value), saved.1.isOk)] })

/-- The writes that were attempted, in order, whether they were accepted or not. -/
def writeRequests (audited : Audited World) : List (String × String) :=
  Answered.requests audited.writes

/-- The savings that were attempted, in order, whether they were accepted or not. -/
def saveRequests (audited : Audited World) : List (String × Int64) :=
  Answered.requests audited.saves

end Audited

/-! ## What batches add to a record -/

/-- If every item adds its entry to a record, a batch adds the entries of all its items in order,
whichever of them are refused. -/
theorem record_attemptAll {World Item Reason Entry : Type}
    (attempt : Item → StateM World (Except Reason Unit)) (record : World → List Entry)
    (entry : Item → Entry)
    (hattempt : ∀ item world,
      record (perform (attempt item) world).2 = record world ++ [entry item])
    (items : List Item) (world : World) :
    record (perform (attemptAll attempt items) world).2 = record world ++ items.map entry := by
  induction items generalizing world with
  | nil => exact (List.append_nil _).symm
  | cons item rest ih =>
      calc record (perform (attemptAll attempt (item :: rest)) world).2
          = record (perform (attemptAll attempt rest) (perform (attempt item) world).2).2 := rfl
        _ = record (perform (attempt item) world).2 ++ rest.map entry := ih _
        _ = record world ++ (item :: rest).map entry := by
            rw [hattempt, List.map_cons, List.append_assoc, List.singleton_append]

namespace Audited

variable {World : Type} (edits : List Edit) (audited : Audited World)

section Nodes

variable [NodeAccess (StateM World)]

@[simp] theorem writeRequests_write (path text : String) :
    (perform (NodeAccess.write path text) audited).2.writeRequests =
      audited.writeRequests ++ [(path, text)] :=
  Answered.requests_concat audited.writes (path, text) _

theorem writeRequests_writeEdits : (perform (writeEdits edits) audited).2.writeRequests =
    audited.writeRequests ++ edits.map Edit.node :=
  record_attemptAll Edit.writeCurrent writeRequests Edit.node
    (fun edit audited => audited.writeRequests_write edit.node.1 edit.node.2) edits audited

theorem saveRequests_writeEdits :
    (perform (writeEdits edits) audited).2.saveRequests = audited.saveRequests := by
  have hkept : Maintains
      (fun after : Audited World => after.saveRequests = audited.saveRequests)
      (writeEdits edits) := .attemptAll fun _ _ _ hsaves => hsaves
  exact hkept audited rfl

end Nodes

section Preferences

variable [PreferenceAccess (StateM World)] (opening : Opening)

theorem writeRequests_saveEdits :
    (perform (saveEdits opening edits) audited).2.writeRequests = audited.writeRequests := by
  have hkept : Maintains
      (fun after : Audited World => after.writeRequests = audited.writeRequests)
      (saveEdits opening edits) := .attemptAll fun _ _ _ hwrites => hwrites
  exact hkept audited rfl

@[simp] theorem saveRequests_save (key : String) (value : Int64) :
    (perform (PreferenceAccess.save opening key value) audited).2.saveRequests =
      audited.saveRequests ++ [(key, value)] :=
  Answered.requests_concat audited.saves (key, value) _

theorem saveRequests_saveEdits :
    (perform (saveEdits opening edits) audited).2.saveRequests =
      audited.saveRequests ++ edits.map fun edit => (edit.control.key, edit.current) :=
  record_attemptAll (Edit.save opening) saveRequests (fun edit => (edit.control.key, edit.current))
    (fun edit audited => audited.saveRequests_save opening edit.control.key edit.current) edits
    audited

end Preferences

end Audited

end KernelControls
