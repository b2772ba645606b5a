import KernelControls.Proofs.Engine.Steps

/-!
# Two backends that answer alike

The engine works on whatever gives access to nodes and preferences.  If two backends answer every
request alike, as long as neither refuses a write or a saving, an engine on the one gives the same
answers as an engine on the other.

## Strategy

`Mirrors` is a logic of pairs of programs: the two programs give the same result, and lead from
corresponding worlds to corresponding worlds, unless something is refused on the way.  It is closed
under sequencing and under batches, so it holds of every operation as soon as it holds of the five
requests; these are the laws of a `Simulation`.

A write is mirrored only where the node is there, because backends differ in what a write to a
missing node does.  So the worlds correspond with a set of known paths, whose nodes are there.  A
question for support adds to them, and the nodes of the open sessions are among them all the time
(`Attends`).
-/

namespace KernelControls

/-! ## Programs in pairs -/

/-- Two programs that do the same in corresponding worlds, if all is calm to the end: neither has
refused anything.  What was refused once is not forgotten. -/
structure Mirrors {Left Right Value : Type} (calmLeft : Left → Prop) (calmRight : Right → Prop)
    (before : Left → Right → Prop) (left : StateM Left Value) (right : StateM Right Value)
    (after : Value → Left → Right → Prop) : Prop where
  calm_left : ∀ world, calmLeft (perform left world).2 → calmLeft world
  calm_right : ∀ world, calmRight (perform right world).2 → calmRight world
  same : ∀ world other, before world other → calmLeft (perform left world).2 →
    calmRight (perform right other).2 →
    (perform right other).1 = (perform left world).1 ∧
      after (perform left world).1 (perform left world).2 (perform right other).2

namespace Mirrors

variable {Left Right Value Other Item Reason : Type} {calmLeft : Left → Prop}
  {calmRight : Right → Prop} {before before' invariant : Left → Right → Prop}
  {left : StateM Left Value} {right : StateM Right Value}
  {after after' : Value → Left → Right → Prop}

theorem pure {value : Value}
    (hafter : ∀ world other, before world other → after value world other) :
    Mirrors calmLeft calmRight before (Pure.pure value) (Pure.pure value) after where
  calm_left _ hcalm := hcalm
  calm_right _ hcalm := hcalm
  same world other hbefore _ _ := ⟨rfl, hafter world other hbefore⟩

theorem bind {rest : Value → StateM Left Other} {rest' : Value → StateM Right Other}
    {last : Other → Left → Right → Prop}
    (hfirst : Mirrors calmLeft calmRight before left right after)
    (hrest : ∀ value, Mirrors calmLeft calmRight (after value) (rest value) (rest' value) last) :
    Mirrors calmLeft calmRight before (left >>= rest) (right >>= rest') last where
  calm_left world hcalm := hfirst.calm_left world ((hrest _).calm_left _ hcalm)
  calm_right world hcalm := hfirst.calm_right world ((hrest _).calm_right _ hcalm)
  same world other hbefore hleft hright := by
    rw [perform_bind] at hleft hright
    -- The end is calm, so the middle was: no refusal is forgotten.
    obtain ⟨hvalue, hafter⟩ := hfirst.same world other hbefore ((hrest _).calm_left _ hleft)
      ((hrest _).calm_right _ hright)
    rw [hvalue] at hright
    rw [perform_bind, perform_bind, hvalue]
    exact (hrest _).same _ _ hafter hleft hright

theorem weaken (h : Mirrors calmLeft calmRight before left right after)
    (hbefore : ∀ world other, before' world other → before world other)
    (hafter : ∀ value world other, after value world other → after' value world other) :
    Mirrors calmLeft calmRight before' left right after' where
  calm_left := h.calm_left
  calm_right := h.calm_right
  same world other hstart hleft hright :=
    (h.same world other (hbefore world other hstart) hleft hright).imp_right (hafter _ _ _)

/-- A batch keeps what every attempt keeps. -/
theorem attemptAll {attempt : Item → StateM Left (Except Reason Unit)}
    {attempt' : Item → StateM Right (Except Reason Unit)} {items : List Item}
    (hattempt : ∀ item ∈ items, Mirrors calmLeft calmRight invariant (attempt item) (attempt' item)
      fun _ => invariant) :
    Mirrors calmLeft calmRight invariant (KernelControls.attemptAll attempt items)
      (KernelControls.attemptAll attempt' items) fun _ => invariant := by
  induction items with
  | nil => exact pure fun _ _ hinvariant => hinvariant
  | cons item rest ih =>
      have hrest := ih fun later hlater => hattempt later (List.mem_cons_of_mem _ hlater)
      refine (hattempt item List.mem_cons_self).bind fun result => ?_
      refine hrest.bind fun _ => ?_
      exact pure fun _ _ hinvariant => hinvariant

end Mirrors

/-! ## Simulations -/

/-- Two backends that answer requests alike.  The worlds are `related` with the paths of which it
is known that their nodes are there. -/
structure Simulation (Left Right : Type) [NodeAccess (StateM Left)]
    [PreferenceAccess (StateM Left)] [NodeAccess (StateM Right)]
    [PreferenceAccess (StateM Right)] where
  calmLeft : Left → Prop
  calmRight : Right → Prop
  /-- The paths that nodes have. -/
  isNode : String → Prop
  /-- The openings of the store that are in use. -/
  isOpening : Opening → Prop
  related : (String → Prop) → Left → Right → Prop
  forget : ∀ {known fewer : String → Prop} {world other}, (∀ path, fewer path → known path) →
    related known world other → related fewer world other
  isPresent : ∀ {path known}, isNode path →
    Mirrors calmLeft calmRight (related known) (NodeAccess.isPresent path)
      (NodeAccess.isPresent path) fun present =>
        related fun found => known found ∨ present = true ∧ found = path
  read : ∀ {path known}, isNode path →
    Mirrors calmLeft calmRight (related known) (NodeAccess.read path) (NodeAccess.read path)
      fun _ => related known
  write : ∀ {path known} (text : String), isNode path → known path →
    Mirrors calmLeft calmRight (related known) (NodeAccess.write path text)
      (NodeAccess.write path text) fun _ => related known
  saved? : ∀ {opening known} (key : String), isOpening opening →
    Mirrors calmLeft calmRight (related known) (PreferenceAccess.saved? opening key)
      (PreferenceAccess.saved? opening key) fun _ => related known
  save : ∀ {opening key known} (value : Int64), isOpening opening → isNode key → known key →
    Mirrors calmLeft calmRight (related known) (PreferenceAccess.save opening key value)
      (PreferenceAccess.save opening key value) fun _ => related known

namespace Simulation

variable {Left Right : Type} [NodeAccess (StateM Left)] [PreferenceAccess (StateM Left)]
  [NodeAccess (StateM Right)] [PreferenceAccess (StateM Right)] (simulation : Simulation Left Right)

/-- Programs in pairs, on the two backends of a simulation. -/
abbrev Mirrors {Value : Type} (before : Left → Right → Prop) (left : StateM Left Value)
    (right : StateM Right Value) (after : Value → Left → Right → Prop) : Prop :=
  KernelControls.Mirrors simulation.calmLeft simulation.calmRight before left right after

/-- Two programs that give the same result and forget nothing that is known. -/
abbrev Keeps {Value : Type} (known : String → Prop) (left : StateM Left Value)
    (right : StateM Right Value) : Prop :=
  simulation.Mirrors (simulation.related known) left right fun _ => simulation.related known

/-- All controls have paths that nodes have. -/
def Names (controls : List Control) : Prop :=
  ∀ control ∈ controls, simulation.isNode control.path

variable {simulation} {known : String → Prop} {opening : Opening}

theorem Keeps.pure {Value : Type} (value : Value) :
    simulation.Keeps known (Pure.pure value) (Pure.pure value) :=
  Mirrors.pure fun _ _ hrelated => hrelated

theorem Keeps.bind {Value Other : Type} {left : StateM Left Value} {right : StateM Right Value}
    {rest : Value → StateM Left Other} {rest' : Value → StateM Right Other}
    (hfirst : simulation.Keeps known left right)
    (hrest : ∀ value, simulation.Keeps known (rest value) (rest' value)) :
    simulation.Keeps known (left >>= rest) (right >>= rest') :=
  Mirrors.bind hfirst hrest

/-! ## Nodes -/

/-- The nodes of the paths that are not found missing are there. -/
theorem missingPaths {paths : List String} (hnodes : ∀ path ∈ paths, simulation.isNode path) :
    simulation.Mirrors (simulation.related known) (KernelControls.missingPaths paths)
      (KernelControls.missingPaths paths) fun missing =>
        simulation.related fun found => known found ∨ missing = [] ∧ found ∈ paths := by
  induction paths generalizing known with
  | nil =>
      refine Mirrors.pure fun world other hrelated => simulation.forget ?_ hrelated
      exact fun path hpath => hpath.resolve_right fun hfound => nomatch hfound.2
  | cons path rest ih =>
      refine Mirrors.bind (simulation.isPresent (hnodes path List.mem_cons_self)) fun present => ?_
      refine Mirrors.bind (ih fun later hlater => hnodes later (List.mem_cons_of_mem _ hlater))
        fun missing => ?_
      refine Mirrors.pure fun world other hrelated => simulation.forget ?_ hrelated
      rintro found (hknown | ⟨hnone, hmem⟩)
      · exact .inl (.inl hknown)
      · -- If none is missing, this path was found and so were those after it.
        cases present with
        | false => cases hnone
        | true =>
            rcases List.mem_cons.mp hmem with hhere | hlater
            · exact .inl (.inr ⟨rfl, hhere⟩)
            · exact .inr ⟨hnone, hlater⟩

/-- The nodes of a family that is found supported are there. -/
theorem isSupported {family : Family} (hnames : simulation.Names family.controls) :
    simulation.Mirrors (simulation.related known) family.isSupported family.isSupported
      fun supported => simulation.related fun found =>
        known found ∨ supported = true ∧ found ∈ family.controls.map Control.path := by
  refine Mirrors.bind (missingPaths (List.forall_mem_map.mpr hnames)) fun missing => ?_
  refine Mirrors.pure fun world other hrelated => simulation.forget ?_ hrelated
  rintro found (hknown | ⟨hsupported, hmem⟩)
  · exact .inl hknown
  · exact .inr ⟨List.isEmpty_iff.mp (Bool.and_eq_true_iff.mp hsupported).2, hmem⟩

/-- A program that goes on only where a family is supported may count on its nodes. -/
theorem whenSupported {Value : Type} {family : Family} (hnames : simulation.Names family.controls)
    {left left' : StateM Left Value} {right right' : StateM Right Value}
    (hsupported : ∀ more : String → Prop, (∀ control ∈ family.controls, more control.path) →
      simulation.Keeps more left right)
    (hunsupported : simulation.Keeps known left' right') :
    simulation.Keeps known
      (do if ← family.isSupported then left else left')
      (do if ← family.isSupported then right else right') := by
  refine Mirrors.bind (isSupported hnames) fun supported => ?_
  have hforget : ∀ world other, simulation.related (fun found => known found ∨
      supported = true ∧ found ∈ family.controls.map Control.path) world other →
      simulation.related known world other :=
    fun _ _ => simulation.forget fun _ => .inl
  cases supported with
  | true =>
      -- What the check has found out is known to the program that comes after it.
      refine Mirrors.weaken (hsupported _ fun control hcontrol => .inr ⟨rfl, ?_⟩)
        (fun _ _ hrelated => hrelated) fun _ => hforget
      exact List.mem_map_of_mem hcontrol
  | false => exact Mirrors.weaken hunsupported hforget fun _ _ _ hrelated => hrelated

theorem keeps_isSupported {family : Family} (hnames : simulation.Names family.controls) :
    simulation.Keeps known family.isSupported family.isSupported :=
  Mirrors.weaken (isSupported hnames) (fun _ _ hrelated => hrelated)
    fun _ _ _ => simulation.forget fun _ => .inl

theorem keeps_missingPaths {paths : List String}
    (hnodes : ∀ path ∈ paths, simulation.isNode path) :
    simulation.Keeps known (KernelControls.missingPaths paths)
      (KernelControls.missingPaths paths) :=
  Mirrors.weaken (missingPaths hnodes) (fun _ _ hrelated => hrelated)
    fun _ _ _ => simulation.forget fun _ => .inl

theorem supportedAmong {families : List Family}
    (hnames : ∀ family ∈ families, simulation.Names family.controls) :
    simulation.Keeps known (Engine.supportedAmong families) (Engine.supportedAmong families) := by
  induction families with
  | nil => exact .pure _
  | cons family rest ih =>
      refine (keeps_isSupported (hnames family List.mem_cons_self)).bind fun supported => ?_
      exact (ih fun later hlater => hnames later (List.mem_cons_of_mem _ hlater)).bind
        fun _ => .pure _

theorem readValue {control : Control} (hnode : simulation.isNode control.path) :
    simulation.Keeps known control.readValue control.readValue := by
  refine Keeps.bind (simulation.read hnode) fun result => ?_
  cases result with
  | error error => exact .pure _
  | ok text =>
      simp only
      cases control.codec.decode text <;> exact .pure _

theorem readValues {controls : List Control} (hnames : simulation.Names controls) :
    simulation.Keeps known (KernelControls.readValues controls)
      (KernelControls.readValues controls) := by
  induction controls with
  | nil => exact .pure _
  | cons control rest ih =>
      obtain ⟨hfirst, hrest⟩ := List.forall_mem_cons.mp hnames
      refine (readValue hfirst).bind fun result => ?_
      cases result with
      | error error => exact .pure _
      | ok value =>
          refine (ih hrest).bind fun others => ?_
          cases others <;> exact .pure _

theorem writeUntilRefused {pairs : List (Control × Int64)}
    (hnodes : ∀ pair ∈ pairs, simulation.isNode pair.1.path ∧ known pair.1.path) :
    simulation.Keeps known (KernelControls.writeUntilRefused pairs)
      (KernelControls.writeUntilRefused pairs) := by
  induction pairs with
  | nil => exact .pure _
  | cons pair rest ih =>
      obtain ⟨⟨hnode, hknown⟩, hrest⟩ := List.forall_mem_cons.mp hnodes
      refine Keeps.bind (simulation.write _ hnode hknown) fun result => ?_
      cases result with
      | error error => exact .pure _
      | ok done => exact ih hrest

theorem writeLine {family : Family} (hnames : simulation.Names family.controls)
    (hknown : ∀ control ∈ family.controls, known control.path) (line : String) :
    simulation.Keeps known (family.writeLine line) (family.writeLine line) := by
  unfold Family.writeLine
  cases valuesOfLine? line with
  | none => exact .pure _
  | some values =>
      simp only
      split
      · refine writeUntilRefused fun pair hpair => ?_
        have hcontrol : pair.1 ∈ family.controls := (List.of_mem_zip hpair).1
        exact ⟨hnames _ hcontrol, hknown _ hcontrol⟩
      · exact .pure _

/-! ## Preferences -/

section Preferences

variable (hopening : simulation.isOpening opening)
include hopening

theorem saved (control : Control) :
    simulation.Keeps known (control.saved opening) (control.saved opening) :=
  Keeps.bind (simulation.saved? control.key hopening) fun _ => .pure _

theorem captureEdits (controls : List Control) :
    simulation.Keeps known (KernelControls.captureEdits opening controls)
      (KernelControls.captureEdits opening controls) := by
  induction controls with
  | nil => exact .pure _
  | cons control rest ih => exact (saved hopening control).bind fun _ => ih.bind fun _ => .pure _

end Preferences

/-! ## Batches -/

/-- Edits of nodes that are known to be there. -/
def Reaches (simulation : Simulation Left Right) (known : String → Prop)
    (controls : List Control) : Prop :=
  ∀ control ∈ controls, simulation.isNode control.path ∧ known control.path

theorem writeEdits {edits : List Edit}
    (hreaches : simulation.Reaches known (edits.map Edit.control)) :
    simulation.Keeps known (KernelControls.writeEdits edits) (KernelControls.writeEdits edits) := by
  refine Keeps.bind (Mirrors.attemptAll fun edit hedit => ?_) fun _ => .pure _
  obtain ⟨hnode, hknown⟩ := hreaches edit.control (List.mem_map_of_mem hedit)
  exact simulation.write _ hnode hknown

theorem saveEdits (hopening : simulation.isOpening opening) {edits : List Edit}
    (hreaches : simulation.Reaches known (edits.map Edit.control)) :
    simulation.Keeps known (KernelControls.saveEdits opening edits)
      (KernelControls.saveEdits opening edits) := by
  refine Keeps.bind (Mirrors.attemptAll fun edit hedit => ?_) fun _ => .pure _
  obtain ⟨hnode, hknown⟩ := hreaches edit.control (List.mem_map_of_mem hedit)
  exact simulation.save _ hopening hnode hknown

theorem finish {session : Session} (hopening : simulation.isOpening session.opening)
    (hreaches : simulation.Reaches known (session.edits.map Edit.control))
    (accepted lastOpen : Bool) :
    simulation.Keeps known (session.finish accepted lastOpen)
      (session.finish accepted lastOpen) := by
  unfold Session.finish
  cases accepted with
  | true => exact (saveEdits hopening hreaches).bind fun _ => .pure _
  | false =>
      cases lastOpen with
      | true =>
          rw [← session.control_reverted] at hreaches
          exact (writeEdits hreaches).bind fun _ => .pure _
      | false => exact .pure _

theorem restoreFamily (hopening : simulation.isOpening opening) {family : Family}
    (hnames : simulation.Names family.controls) :
    simulation.Keeps known (family.restore opening) (family.restore opening) := by
  refine whenSupported hnames (fun more hmore => ?_) ?_
  · refine Keeps.bind (Mirrors.attemptAll fun control hcontrol => ?_) fun _ => .pure _
    -- What the gate found is known, so every write is to a node that is there.
    exact (saved hopening control).bind fun value =>
      simulation.write _ (hnames control hcontrol) (hmore control hcontrol)
  · exact (keeps_missingPaths (List.forall_mem_map.mpr hnames)).bind fun _ => .pure _

theorem restoreFamilies (hopening : simulation.isOpening opening) {families : List Family}
    (hnames : ∀ family ∈ families, simulation.Names family.controls) :
    simulation.Keeps known (KernelControls.restoreFamilies opening families)
      (KernelControls.restoreFamilies opening families) := by
  induction families with
  | nil => exact .pure _
  | cons family rest ih =>
      refine (restoreFamily hopening (hnames family List.mem_cons_self)).bind fun _ => ?_
      exact (ih fun later hlater => hnames later (List.mem_cons_of_mem _ hlater)).bind
        fun _ => .pure _

/-! ## Operations of the engine -/

/-- An engine whose families have the paths of nodes, and whose sessions edit nodes that are known
to be there. -/
structure Attends (simulation : Simulation Left Right) (known : String → Prop)
    (engine : Engine) : Prop where
  opening : simulation.isOpening engine.opening
  names : ∀ family ∈ engine.catalog.families, simulation.Names family.controls
  sessions : ∀ name session, engine.session? name = some session →
    simulation.isOpening session.opening ∧
      simulation.Reaches known (session.edits.map Edit.control)

variable {engine : Engine}

theorem Attends.names_of_family (attends : simulation.Attends known engine) {id : String}
    {family : Family} (hknown : engine.family id = .ok family) :
    simulation.Names family.controls :=
  attends.names family (List.mem_of_find?_eq_some (engine.get?_of_family hknown).1)

section Operations

variable (attends : simulation.Attends known engine)
include attends

theorem askSupported (id : String) :
    simulation.Keeps known (engine.isSupported id) (engine.isSupported id) := by
  unfold Engine.isSupported
  cases hfamily : engine.catalog.get? id with
  | none => exact .pure _
  | some family =>
      exact keeps_isSupported (attends.names family (List.mem_of_find?_eq_some hfamily))

theorem currentValues (id : String) :
    simulation.Keeps known (engine.currentValues id) (engine.currentValues id) := by
  unfold Engine.currentValues
  cases hfamily : engine.family id with
  | error error => exact .pure _
  | ok family => exact readValues (attends.names_of_family hfamily)

theorem savedValue (id name : String) :
    simulation.Keeps known (engine.savedValue id name) (engine.savedValue id name) := by
  unfold Engine.savedValue
  cases engine.family id >>= fun family => Engine.control family name with
  | error error => exact .pure _
  | ok control => exact (saved attends.opening control).bind fun _ => .pure _

theorem openSession (name id : String) (coordinator : Option CoordinatorName) :
    simulation.Keeps known (engine.openSession name id coordinator)
      (engine.openSession name id coordinator) := by
  unfold Engine.openSession
  split
  · exact .pure _
  · cases hfamily : engine.family id with
    | error error => exact .pure _
    | ok family =>
        simp only
        cases Engine.requireMode family .session with
        | error error => exact .pure _
        | ok done =>
            -- Behind the gate a session only captures what is saved.
            refine whenSupported (attends.names_of_family hfamily) (fun more _ => ?_) (.pure _)
            exact (captureEdits attends.opening family.controls).bind fun _ => .pure _

theorem setLive (name control : String) (value : Int64) :
    simulation.Keeps known (engine.setLive name control value)
      (engine.setLive name control value) := by
  unfold Engine.setLive
  cases hopen : engine.session? name with
  | none => exact .pure _
  | some session =>
      simp only
      cases hedit : session.edit? control with
      | none => exact .pure _
      | some edit =>
          have hmem : edit ∈ session.edits := List.mem_of_find?_eq_some hedit
          obtain ⟨hnode, hknown⟩ :=
            (attends.sessions name session hopen).2 edit.control (List.mem_map_of_mem hmem)
          refine Keeps.bind (simulation.write _ hnode hknown) fun result => ?_
          cases result <;> exact .pure _

theorem resetSession (name : String) :
    simulation.Keeps known (engine.resetSession name) (engine.resetSession name) := by
  unfold Engine.resetSession
  cases hopen : engine.session? name with
  | none => exact .pure _
  | some session =>
      have hreaches := (attends.sessions name session hopen).2
      rw [← (Session.SameFrame.previewDefaults session).controls] at hreaches
      exact Keeps.bind ((writeEdits hreaches).bind fun _ => .pure _) fun _ => .pure _

theorem closeSession (name : String) (accepted : Bool) :
    simulation.Keeps known (engine.closeSession name accepted)
      (engine.closeSession name accepted) := by
  unfold Engine.closeSession
  cases hopen : engine.session? name with
  | none => exact .pure _
  | some session =>
      obtain ⟨hopening, hreaches⟩ := attends.sessions name session hopen
      exact (finish hopening hreaches accepted _).bind fun _ => .pure _

theorem applyDirect (id name : String) (value : Int64) :
    simulation.Keeps known (engine.applyDirect id name value)
      (engine.applyDirect id name value) := by
  cases hfound : engine.directControl id name with
  | error error =>
      unfold Engine.directControl at hfound
      unfold Engine.applyDirect
      simp only [hfound]
      exact .pure _
  | ok found =>
      obtain ⟨family, control⟩ := found
      obtain ⟨hfamily, -, hnamed⟩ := engine.directControl_eq_ok hfound
      have hcontrol : control ∈ family.controls := List.mem_of_find?_eq_some hnamed
      have hnames := attends.names_of_family hfamily
      have hnode := hnames control hcontrol
      unfold Engine.directControl at hfound
      unfold Engine.applyDirect
      simp only [hfound]
      -- The node is written before the value is saved, so it need not be looked for again.
      refine whenSupported hnames (fun more hmore => ?_) (.pure _)
      refine Keeps.bind (simulation.write _ hnode (hmore control hcontrol)) fun written => ?_
      refine Keeps.bind (simulation.save value attends.opening hnode (hmore control hcontrol))
        fun result => ?_
      cases result <;> exact .pure _

/-- Every command is answered alike, if a line of values goes to nodes that are there. -/
theorem step {command : Command}
    (hline : ∀ id line family, command = .writeLine id line → engine.family id = .ok family →
      ∀ control ∈ family.controls, known control.path) :
    simulation.Keeps known (engine.step command) (engine.step command) := by
  cases command with
  | listFamilies | showFamily | countOpen | openTicket | closeTicket => exact .pure _
  | listSupported => exact (supportedAmong attends.names).bind fun _ => .pure _
  | askSupported id => exact (askSupported attends id).bind fun _ => .pure _
  | listMissing id =>
      simp only [Engine.step]
      cases hfamily : engine.family id with
      | error error => exact .pure _
      | ok family =>
          have hnames := attends.names_of_family hfamily
          exact (keeps_missingPaths (List.forall_mem_map.mpr hnames)).bind fun _ => .pure _
  | openSession name id coordinator =>
      exact (openSession attends name id coordinator).bind fun _ => .pure _
  | setLive name control value => exact (setLive attends name control value).bind fun _ => .pure _
  | resetSession name => exact (resetSession attends name).bind fun _ => .pure _
  | showSession name =>
      simp only [Engine.step]
      cases engine.session? name <;> exact .pure _
  | showControl name control =>
      simp only [Engine.step]
      cases engine.session? name <;> exact .pure _
  | commit name => exact (closeSession attends name true).bind fun _ => .pure _
  | cancel name | drop name => exact (closeSession attends name false).bind fun _ => .pure _
  | applyDirect id name value => exact (applyDirect attends id name value).bind fun _ => .pure _
  | showSaved id name => exact (savedValue attends id name).bind fun _ => .pure _
  | showCurrent id => exact (currentValues attends id).bind fun _ => .pure _
  | showCurrentLine id =>
      exact Keeps.bind ((currentValues attends id).bind fun _ => .pure _) fun _ => .pure _
  | writeLine id line =>
      refine Keeps.bind ?_ fun _ => .pure _
      unfold Engine.writeLine
      cases hfamily : engine.family id with
      | error error => exact .pure _
      | ok family =>
          exact (writeLine (attends.names_of_family hfamily) (hline id line family rfl hfamily)
            line).bind fun _ => .pure _
  | restore focus =>
      exact Keeps.bind ((restoreFamilies attends.opening attends.names).bind fun _ => .pure _)
        fun _ => .pure _
  | restoreFamily id =>
      refine Keeps.bind ?_ fun _ => .pure _
      unfold Engine.restoreFamily
      cases hfamily : engine.family id with
      | error error => exact .pure _
      | ok family =>
          exact (restoreFamily attends.opening (attends.names_of_family hfamily)).bind
            fun _ => .pure _

end Operations

end Simulation

end KernelControls
