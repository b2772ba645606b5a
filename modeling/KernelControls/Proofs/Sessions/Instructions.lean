import KernelControls.Proofs.Sessions.LastOut

/-!
# What a session is told

A session is told to preview a value on a control, or every default, and nothing else ever reaches
its edits.  What it shows is what it captured when it was opened, as edited by what it was told
since, in order.

## Strategy

`session?_step_told` says of one command that an open session follows it if it is an instruction to
this session, whatever comes of the write, and is left alone by every other command that does not
end it.  The run is an induction over the commands (`session?_run_told`).  Where the controls of a
family are distinct, an instruction gives some of them a value, and what a control previews is the
value it was given last (`edits_followAll`).
-/

namespace KernelControls

/-! ## Instructions -/

/-- What a session can be told. -/
inductive Instruction where
  | preview (control : String) (value : Int64)
  | previewDefaults
  deriving DecidableEq, Repr

/-- What a command tells the session of a name. -/
def Command.instruction? (name : String) : Command → Option Instruction
  | .setLive other control value => if other = name then some (.preview control value) else none
  | .resetSession other => if other = name then some .previewDefaults else none
  | _ => none

/-- What commands tell the session of a name, in order. -/
def instructionsFor (name : String) (commands : List Command) : List Instruction :=
  commands.filterMap (Command.instruction? name)

namespace Session

/-- The session after it was told something. -/
def follow (session : Session) : Instruction → Session
  | .preview control value => session.preview control value
  | .previewDefaults => session.previewDefaults

/-- The session after it was told several things, one after the other. -/
def followAll (session : Session) (instructions : List Instruction) : Session :=
  instructions.foldl follow session

@[simp] theorem followAll_append (session : Session) (first second : List Instruction) :
    session.followAll (first ++ second) = (session.followAll first).followAll second :=
  List.foldl_append

theorem SameFrame.followAll (session : Session) (instructions : List Instruction) :
    (session.followAll instructions).SameFrame session := by
  induction instructions generalizing session with
  | nil => exact .refl session
  | cons instruction rest ih =>
      have hfirst : (session.follow instruction).SameFrame session := by
        cases instruction with
        | preview control value => exact .preview session control value
        | previewDefaults => exact .previewDefaults session
      exact (ih (session.follow instruction)).trans hfirst

/-- A value for a control that the session does not have changes nothing. -/
theorem preview_of_unknown {session : Session} {control : String}
    (hunknown : session.edit? control = none) (value : Int64) :
    session.preview control value = session := by
  have hnone := List.find?_eq_none.mp hunknown
  have hedits : previewFirst control value session.edits = session.edits := by
    generalize session.edits = edits at hnone
    induction edits with
    | nil => rfl
    | cons edit rest ih =>
        obtain ⟨hfirst, hrest⟩ := List.forall_mem_cons.mp hnone
        have hother : edit.name ≠ control := fun hsame => hfirst (decide_eq_true hsame)
        rw [previewFirst, if_neg hother, ih hrest]
  unfold preview
  rw [hedits]

end Session

/-! ## Sessions follow what they are told -/

section Told

variable {World : Type} [NodeAccess (StateM World)] [PreferenceAccess (StateM World)]
  {engine : Engine} {world : World} {name : String} {session : Session}

omit [PreferenceAccess (StateM World)] in
/-- A live setting of a session reaches this session, whatever comes of the write, and no other. -/
theorem session?_setLive (hopen : engine.session? name = some session) (edited control : String)
    (value : Int64) :
    (perform (engine.setLive edited control value) world).1.2.session? name =
      some (if edited = name then session.preview control value else session) := by
  cases hedited : engine.session? edited with
  | none =>
      rw [engine.setLive_none world hedited]
      have hother : edited ≠ name := by
        rintro rfl
        rw [hopen] at hedited
        cases hedited
      rw [if_neg hother]
      exact hopen
  | some found =>
      by_cases hsame : edited = name
      · subst hsame
        obtain rfl : found = session := Option.some.inj (hedited.symm.trans hopen)
        rw [if_pos rfl]
        cases hedit : found.edit? control with
        | none =>
            -- A refused setting leaves the session, which is what a preview of nothing gives.
            rw [engine.setLive_unknown world hopen hedit, Session.preview_of_unknown hedit]
            exact hopen
        | some edit =>
            rw [engine.setLive_known world hopen hedit]
            exact (engine.session?_putSession edited).trans (if_pos rfl)
      · rw [if_neg hsame]
        cases hedit : found.edit? control with
        | none =>
            rw [engine.setLive_unknown world hedited hedit]
            exact hopen
        | some edit =>
            rw [engine.setLive_known world hedited hedit]
            exact (engine.session?_putSession name).trans ((if_neg (Ne.symm hsame)).trans hopen)

omit [PreferenceAccess (StateM World)] in
theorem session?_resetSession (hopen : engine.session? name = some session) (edited : String) :
    (perform (engine.resetSession edited) world).1.2.session? name =
      some (if edited = name then session.previewDefaults else session) := by
  cases hedited : engine.session? edited with
  | none =>
      rw [engine.resetSession_none world hedited]
      have hother : edited ≠ name := by
        rintro rfl
        rw [hopen] at hedited
        cases hedited
      rw [if_neg hother]
      exact hopen
  | some found =>
      rw [engine.resetSession_some world hedited]
      refine (engine.session?_putSession name).trans ?_
      by_cases hsame : edited = name
      · subst hsame
        obtain rfl : found = session := Option.some.inj (hedited.symm.trans hopen)
        rw [if_pos rfl, if_pos rfl]
      · rw [if_neg (Ne.symm hsame), if_neg hsame]
        exact hopen

theorem session?_openSession (hopen : engine.session? name = some session) (opened id : String)
    (coordinator : Option CoordinatorName) :
    (perform (engine.openSession opened id coordinator) world).1.2.session? name =
      some session := by
  rcases engine.openSession_cases world opened id coordinator with
    ⟨error, after, hrun, -⟩ | ⟨family, hfree, -, hrun⟩
  · rw [hrun]
    exact hopen
  · rw [hrun]
    have hother : name ≠ opened := by
      rintro rfl
      rw [hopen] at hfree
      cases hfree
    exact (engine.session?_withSession name).trans ((if_neg hother).trans hopen)

theorem session?_step_told (hopen : engine.session? name = some session) {command : Command}
    (hends : command.ends name = false) (world : World) :
    (perform (engine.step command) world).1.2.session? name =
      some (session.followAll (command.instruction? name).toList) := by
  -- A close leaves the sessions of other names.
  have hclose : ∀ (ending : String) (accepted : Bool), decide (ending = name) = false →
      (perform (engine.closeSession ending accepted) world).1.2.session? name = some session := by
    intro ending accepted hother
    rw [engine.session?_closeSession, if_neg (Ne.symm (of_decide_eq_false hother))]
    exact hopen
  by_cases hleaves : Engine.leavesEngine command = true
  · rw [engine.step_of_leavesEngine world hleaves, hopen]
    cases command <;> first | rfl | cases hleaves
  cases command with
  | openSession opened id coordinator => exact session?_openSession hopen opened id coordinator
  | setLive edited control value =>
      rw [engine.step_setLive]
      refine (session?_setLive hopen edited control value).trans ?_
      simp only [Command.instruction?]
      split <;> rfl
  | resetSession edited =>
      rw [engine.step_resetSession]
      refine (session?_resetSession hopen edited).trans ?_
      simp only [Command.instruction?]
      split <;> rfl
  | commit ending => exact hclose ending true hends
  | cancel ending | drop ending => exact hclose ending false hends
  | openTicket => exact hopen
  | closeTicket ticket coordinator =>
      exact (engine.session?_closeTicket coordinator name).trans hopen
  | _ => exact absurd rfl hleaves

/-- A whole run: a session that is not ended has followed what it was told, in order. -/
theorem session?_run_told (hopen : engine.session? name = some session) {commands : List Command}
    (hkept : ∀ command ∈ commands, command.ends name = false) (world : World) :
    (perform (engine.run commands) world).1.2.session? name =
      some (session.followAll (instructionsFor name commands)) := by
  induction commands generalizing engine world session with
  | nil => exact hopen
  | cons command rest ih =>
      obtain ⟨hfirst, hrest⟩ := List.forall_mem_cons.mp hkept
      have hnext := session?_step_told hopen hfirst world
      have hlater := ih hnext hrest (perform (engine.step command) world).2
      have htold : instructionsFor name (command :: rest) =
          (command.instruction? name).toList ++ instructionsFor name rest := by
        unfold instructionsFor
        rw [List.filterMap_cons]
        cases command.instruction? name <;> rfl
      rw [htold, Session.followAll_append, engine.run_cons]
      exact hlater

/-- An opening that is not refused makes the session that captured what the store answered. -/
theorem session?_of_opened {id : String} {coordinator : Option CoordinatorName} {opened : String}
    (hopened : (perform (engine.openSession name id coordinator) world).1.1 = .ok opened) :
    ∃ family, engine.Openable world id family ∧
      (perform (engine.openSession name id coordinator) world).1.2.session? name =
        some (engine.newSession family (coordinator.getD (.shared id))
          (perform (captureEdits engine.opening family.controls)
            (perform family.isSupported world).2).1) := by
  rcases engine.openSession_cases world name id coordinator with
    ⟨error, after, hrun, -⟩ | ⟨family, -, openable, hrun⟩
  · rw [hrun] at hopened
    cases hopened
  · refine ⟨family, openable, ?_⟩
    rw [hrun]
    exact (engine.session?_withSession name).trans (if_pos rfl)

/-- A session that stems from a run is the one that was opened in it, and has followed what it was
told since. -/
theorem told_of_stemsFrom {first : Engine} {commands : List Command} {family : Family}
    {captured : List Edit} (stems : session.StemsFrom name first commands world family captured)
    (hopen : (perform (first.run commands) world).1.2.session? name = some session) :
    ∃ before id coordinator later,
      commands = before ++ .openSession name id coordinator :: later ∧
      (∀ command ∈ later, command.ends name = false) ∧
      let ran := perform (first.run before) world
      ran.1.2.session? name = none ∧ ran.1.2.Openable ran.2 id family ∧
      captured = (perform (captureEdits ran.1.2.opening family.controls)
        (perform family.isSupported ran.2).2).1 ∧
      session = (ran.1.2.newSession family (coordinator.getD (.shared id)) captured).followAll
        (instructionsFor name later) := by
  obtain ⟨before, id, coordinator, later, hsplit, hkept, opened⟩ := stems
  refine ⟨before, id, coordinator, later, hsplit, hkept, opened.free, opened.openable,
    opened.answers, ?_⟩
  let ran := perform (first.run before) world
  -- It begins as it was opened, and what follows tells it the rest.
  have hnew : (perform (ran.1.2.step (.openSession name id coordinator)) ran.2).1.2.session? name =
      some (ran.1.2.newSession family (coordinator.getD (.shared id)) captured) := by
    rw [ran.1.2.step_openSession]
    rw [ran.1.2.openSession_openable ran.2 opened.free opened.openable coordinator, opened.answers]
    exact (ran.1.2.session?_withSession name).trans (if_pos rfl)
  have hlast := session?_run_told hnew hkept
    (perform (ran.1.2.step (.openSession name id coordinator)) ran.2).2
  rw [hsplit, first.run_append, Engine.run_cons] at hopen
  exact Option.some.inj (hopen.symm.trans hlast)

end Told

/-! ## What controls are given -/

/-- The value that an instruction gives a control of a family, if it is about this control. -/
def Instruction.gives (family : Family) (control : Control) : Instruction → Option Int64
  | .preview name value => if family.control? name = some control then some value else none
  | .previewDefaults => some control.default

/-- The value that a control of a family was given last, or else the one it had. -/
def lastGiven (family : Family) (instructions : List Instruction) (had : Control → Int64)
    (control : Control) : Int64 :=
  (instructions.findSomeRev? (Instruction.gives family control)).getD (had control)

/-- One edit for each control. -/
def editsOf (controls : List Control) (captured current : Control → Int64) : List Edit :=
  controls.map fun control => ⟨control, captured control, current control⟩

theorem editsOf_congr {controls : List Control} {captured current other : Control → Int64}
    (hsame : ∀ control ∈ controls, current control = other control) :
    editsOf controls captured current = editsOf controls captured other := by
  apply List.map_congr_left
  intro control hcontrol
  rw [hsame control hcontrol]

/-- A previewed value goes to the first control of its name. -/
theorem previewFirst_editsOf {controls : List Control} (hdistinct : controls.Nodup)
    (captured current : Control → Int64) (name : String) (value : Int64) :
    Session.previewFirst name value (editsOf controls captured current) =
      editsOf controls captured fun control =>
        if (controls.find? fun found => found.name = name) = some control then value
        else current control := by
  induction controls with
  | nil => rfl
  | cons first rest ih =>
      obtain ⟨hfirst, hrest⟩ := List.nodup_cons.mp hdistinct
      let edit : Edit := ⟨first, captured first, current first⟩
      have hsplit : editsOf (first :: rest) captured current =
          edit :: editsOf rest captured current := rfl
      rw [hsplit, Session.previewFirst, List.find?_cons]
      by_cases hname : first.name = name
      · -- The first control takes the value, and no later one is the same control.
        have hothers : ∀ control ∈ rest, current control =
            if some first = some control then value else current control := by
          intro control hcontrol
          rw [if_neg]
          intro hsame
          exact hfirst (Option.some.inj hsame ▸ hcontrol)
        have hnamed : decide (first.name = name) = true := decide_eq_true hname
        rw [if_pos (show edit.name = name from hname), editsOf_congr hothers, hnamed]
        simp [editsOf, Edit.preview, edit]
      · have hnamed : decide (first.name = name) = false := decide_eq_false hname
        have hnotFirst : (rest.find? fun found => found.name = name) ≠ some first := fun hfound =>
          hfirst (List.mem_of_find?_eq_some hfound)
        rw [if_neg (show edit.name ≠ name from hname), ih hrest, hnamed]
        simp [editsOf, hnotFirst, edit]

/-- Where the controls are distinct, each previews the value that it was given last. -/
theorem edits_followAll {family : Family} (hdistinct : family.controls.Nodup) {session : Session}
    {captured current : Control → Int64}
    (hedits : session.edits = editsOf family.controls captured current)
    (instructions : List Instruction) :
    (session.followAll instructions).edits =
      editsOf family.controls captured (lastGiven family instructions current) := by
  induction instructions generalizing session current with
  | nil => exact hedits
  | cons instruction rest ih =>
      let next control := (instruction.gives family control).getD (current control)
      have hfirst : (session.follow instruction).edits =
          editsOf family.controls captured next := by
        cases instruction with
        | preview name value =>
            show Session.previewFirst name value session.edits = _
            rw [hedits, previewFirst_editsOf hdistinct]
            apply editsOf_congr
            intro control _
            show (if family.control? name = some control then _ else _) =
              Option.getD (if family.control? name = some control then _ else _) _
            split <;> rfl
        | previewDefaults =>
            show session.edits.map _ = _
            rw [hedits]
            exact List.map_map
      -- What is given later counts before what is given now.
      refine (ih hfirst).trans (editsOf_congr fun control _ => ?_)
      unfold lastGiven
      rw [List.findSomeRev?]
      cases rest.findSomeRev? (Instruction.gives family control) <;> rfl

end KernelControls
