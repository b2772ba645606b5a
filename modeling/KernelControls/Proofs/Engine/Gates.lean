import KernelControls.Proofs.Boot.Restoring

/-!
# Families with a missing node

A family is offered as a whole or not at all: with a node missing it is not supported.  Opening a
session, setting a control directly and restoring the family all ask first, and none of them
touches anything of a family that lacks a node.  A line of values is the one way around this gate.
It goes to the nodes in order, and a write makes a node that is not there.

## Strategy

The gated operations have few ways to go, and for a family that lacks a node only those are left
in which nothing but a look at the nodes takes place.  For a line of values
`writeUntilRefused_cases` says along the pairs what stands on the nodes where the writing stopped.
-/

namespace KernelControls

variable {World Place : Type} [DecidableEq Place] [NodeAccess (StateM World)]
  [PreferenceAccess (StateM World)] [LawfulBackend World Place]

/-- Some node of a family is not there. -/
def Scene.Lacks (seen : Scene Place) (family : Family) : Prop :=
  ∃ control ∈ family.controls, seen.tree.isPresent control.path = false

instance (seen : Scene Place) (family : Family) : Decidable (seen.Lacks family) :=
  inferInstanceAs (Decidable (∃ control ∈ family.controls, _))

/-! ## Gated commands -/

/-- The commands that are for supported families only. -/
def Command.isGated (id : String) : Command → Bool
  | .openSession _ family _ | .applyDirect family _ _ | .restoreFamily family => family = id
  | _ => false

/-- The answers from before a gate: a refusal, or a family skipped for its missing nodes. -/
def Scene.Denies (seen : Scene Place) (family : Family) (answer : Answer) : Prop :=
  (∃ error, answer = .refused error) ∨ answer = .outcome ⟨family.id,
    .skipped ((family.controls.map Control.path).filter fun path => !seen.tree.isPresent path)⟩

section Gated

variable {world : World} {family : Family}

theorem Scene.Lacks.unsupported (hlacks : (scene world).Lacks family) :
    (perform family.isSupported world).1 = false := by
  obtain ⟨control, hcontrol, habsent⟩ := hlacks
  cases hsupported : (perform family.isSupported world).1 with
  | false => rfl
  | true =>
      rw [isPresent_of_isSupported world hsupported control hcontrol] at habsent
      cases habsent

/-- A family that lacks a node is skipped, and nothing changes. -/
theorem Family.restore_lacking (hlacks : (scene world).Lacks family) (opening : Opening) :
    let restored := perform (family.restore opening) world
    scene restored.2 = scene world ∧ restored.1 = ⟨family.id,
      .skipped ((family.controls.map Control.path).filter fun path =>
        !(scene world).tree.isPresent path)⟩ := by
  have hlooked : scene (perform family.isSupported world).2 = scene world :=
    OnlyLooks.isSupported family world
  rcases family.restore_cases opening world with ⟨hsupported, -⟩ | ⟨-, hrun⟩
  · rw [hlacks.unsupported] at hsupported
    cases hsupported
  · have hmissing : (perform family.missing (perform family.isSupported world).2).1 = _ :=
      answer_missingPaths _ (family.controls.map Control.path)
    rw [hlooked] at hmissing
    rw [hrun]
    exact ⟨(OnlyLooks.missingPaths _ _).trans hlooked, by rw [hmissing]⟩

variable {engine : Engine} {id : String}

theorem openSession_lacking (hknown : engine.family id = .ok family)
    (hlacks : (scene world).Lacks family) (name : String) (coordinator : Option CoordinatorName) :
    ∃ error after, perform (engine.openSession name id coordinator) world =
      ((.error error, engine), after) ∧ scene after = scene world := by
  rcases engine.openSession_cases world name id coordinator with
    ⟨error, after, hrun, hafter⟩ | ⟨found, -, openable, -⟩
  · refine ⟨error, after, hrun, ?_⟩
    rcases hafter with rfl | ⟨asked, rfl⟩
    · rfl
    · exact OnlyLooks.isSupported asked world
  · have hsame : family = found := Except.ok.inj (hknown.symm.trans openable.known)
    have hsupported := openable.supported
    rw [← hsame, hlacks.unsupported] at hsupported
    cases hsupported

theorem applyDirect_lacking (hknown : engine.family id = .ok family)
    (hlacks : (scene world).Lacks family) (name : String) (value : Int64) :
    ∃ error after, perform (engine.applyDirect id name value) world = (.error error, after) ∧
      scene after = scene world := by
  cases hfound : engine.directControl id name with
  | error error => exact ⟨error, world, engine.applyDirect_refused world value hfound, rfl⟩
  | ok found =>
      obtain ⟨known, control⟩ := found
      have hsame : family = known :=
        Except.ok.inj (hknown.symm.trans (engine.directControl_eq_ok hfound).1)
      subst hsame
      exact ⟨_, _, engine.applyDirect_unsupported world value hfound hlacks.unsupported,
        OnlyLooks.isSupported family world⟩

/-- A gated command does nothing to a family that lacks a node. -/
theorem step_of_isGated (hknown : engine.family id = .ok family)
    (hlacks : (scene world).Lacks family) {command : Command} (hgated : command.isGated id = true) :
    let after := perform (engine.step command) world
    after.1.2 = engine ∧ scene after.2 = scene world ∧
      (scene world).Denies family after.1.1 := by
  cases command with
  | openSession name other coordinator =>
      obtain rfl : other = id := of_decide_eq_true hgated
      obtain ⟨error, after, hrun, hscene⟩ := openSession_lacking hknown hlacks name coordinator
      rw [Engine.step_openSession, hrun]
      exact ⟨rfl, hscene, .inl ⟨error, rfl⟩⟩
  | applyDirect other name value =>
      obtain rfl : other = id := of_decide_eq_true hgated
      obtain ⟨error, after, hrun, hscene⟩ := applyDirect_lacking hknown hlacks name value
      rw [show perform (engine.step (.applyDirect other name value)) world =
        ((.ofResult .flag (perform (engine.applyDirect other name value) world).1, engine),
          (perform (engine.applyDirect other name value) world).2) from rfl, hrun]
      exact ⟨rfl, hscene, .inl ⟨error, rfl⟩⟩
  | restoreFamily other =>
      obtain rfl : other = id := of_decide_eq_true hgated
      obtain ⟨hscene, houtcome⟩ := Family.restore_lacking hlacks engine.opening
      have hrun : perform (engine.step (.restoreFamily other)) world =
          ((.outcome (perform (family.restore engine.opening) world).1, engine),
            (perform (family.restore engine.opening) world).2) := by
        simp only [Engine.step, Engine.restoreFamily, hknown]
        rfl
      rw [hrun]
      exact ⟨rfl, hscene, .inr (by rw [houtcome])⟩
  | _ => cases hgated

end Gated

/-! ## A line of values -/

/-- The node that a control's value is written to, and the text that is written. -/
def nodeOfPair (pair : Control × Int64) : String × String :=
  (pair.1.path, pair.1.codec.encode pair.2)

/-- The values of a line with their controls, if the line has one value for each control. -/
def Family.pairsOfLine? (family : Family) (line : String) : Option (List (Control × Int64)) :=
  match valuesOfLine? line with
  | none => none
  | some values =>
    if values.length = family.controls.length then some (family.controls.zip values) else none

omit [PreferenceAccess (StateM World)] in
theorem Family.writeLine_eq (family : Family) (line : String) (world : World) :
    perform (family.writeLine line) world =
      match family.pairsOfLine? line with
      | none => (false, world)
      | some pairs => perform (writeUntilRefused pairs) world := by
  unfold writeLine pairsOfLine?
  cases valuesOfLine? line with
  | none => rfl
  | some values =>
      by_cases hlength : values.length = family.controls.length
      · simp only [if_pos hlength]
      · simp only [if_neg hlength]
        rfl

theorem Family.map_fst_of_pairsOfLine? {family : Family} {line : String}
    {pairs : List (Control × Int64)} (hpairs : family.pairsOfLine? line = some pairs) :
    pairs.map Prod.fst = family.controls := by
  unfold pairsOfLine? at hpairs
  split at hpairs
  · cases hpairs
  · next values hvalues =>
      split at hpairs
      · next hlength =>
          rw [← Option.some.inj hpairs]
          exact List.map_fst_zip (Nat.le_of_eq hlength.symm)
      · cases hpairs

section WriteUntilRefused

variable {pair : Control × Int64} (rest : List (Control × Int64)) {world : World}

omit [PreferenceAccess (StateM World)] [LawfulBackend World Place]

theorem writeUntilRefused_cons_refused {error : NodeError}
    (hrefused : (perform (pair.1.write pair.2) world).1 = .error error) :
    perform (writeUntilRefused (pair :: rest)) world =
      (false, (perform (pair.1.write pair.2) world).2) := by
  unfold writeUntilRefused
  rw [perform_bind, hrefused]
  rfl

theorem writeUntilRefused_cons_accepted
    (haccepted : (perform (pair.1.write pair.2) world).1 = .ok ()) :
    perform (writeUntilRefused (pair :: rest)) world =
      perform (writeUntilRefused rest) (perform (pair.1.write pair.2) world).2 := by
  rw [writeUntilRefused, perform_bind, haccepted]

end WriteUntilRefused

/-- Pairs are written up to the first refused one.  The refused write may have changed its own
node, and nothing after it took place. -/
theorem writeUntilRefused_cases (pairs : List (Control × Int64)) (world : World) :
    let after := perform (writeUntilRefused pairs) world
    ∃ written refused, pairs = written ++ refused ∧ after.1 = refused.isEmpty ∧
      (scene after.2).saved = (scene world).saved ∧
      (scene after.2).tree.EqOutside ((refused.take 1).map fun pair => pair.1.path)
        ((scene world).tree.putAll (written.map nodeOfPair)) := by
  induction pairs generalizing world with
  | nil => exact ⟨[], [], rfl, rfl, rfl, .refl _ _⟩
  | cons pair rest ih =>
      have hwrites : Writes [nodeOfPair pair] ((perform (pair.1.write pair.2) world).1 = .ok ())
          (scene world) (scene (perform (pair.1.write pair.2) world).2) :=
        Writes.node pair.1.path (pair.1.codec.encode pair.2) world
      -- A refused write ends the line, whatever it did to its own node.
      cases hanswer : (perform (pair.1.write pair.2) world).1 with
      | error error =>
          rw [writeUntilRefused_cons_refused rest hanswer]
          exact ⟨[], pair :: rest, rfl, rfl, hwrites.saved, hwrites.outside⟩
      | ok done =>
          obtain ⟨written, refused, hsplit, hresult, hsaved, houtside⟩ :=
            ih (perform (pair.1.write pair.2) world).2
          rw [hwrites.accepted hanswer] at houtside
          rw [writeUntilRefused_cons_accepted rest hanswer]
          exact ⟨pair :: written, refused, by rw [hsplit]; rfl, hresult,
            hsaved.trans hwrites.saved, houtside⟩

theorem NodeTree.isPresent_putAll {tree : NodeTree Place} {nodes : List (String × String)}
    {path : String} (hpresent : tree.isPresent path = true ∨ path ∈ nodes.map Prod.fst) :
    (tree.putAll nodes).isPresent path = true := by
  induction nodes generalizing tree with
  | nil => exact hpresent.resolve_right List.not_mem_nil
  | cons node rest ih =>
      apply ih
      unfold isPresent look at hpresent ⊢
      show decide ((tree.put node.1 node.2).sight (tree.place path) ≠ .absent) = true ∨ _
      rw [sight_put]
      -- A put makes its own place present and leaves the rest.
      rcases hpresent with hthere | hmem
      · left
        split
        · rfl
        · exact hthere
      · rcases List.mem_cons.mp hmem with rfl | hlater
        · left
          rw [if_pos rfl]
          rfl
        · exact .inr hlater

/-- A line that was written leaves no node missing. -/
theorem Family.not_lacks_of_written {family : Family} {line : String}
    {pairs : List (Control × Int64)} (hpairs : family.pairsOfLine? line = some pairs)
    {before after : Scene Place}
    (htree : after.tree = before.tree.putAll (pairs.map nodeOfPair)) : ¬after.Lacks family := by
  rintro ⟨control, hcontrol, habsent⟩
  rw [← map_fst_of_pairsOfLine? hpairs] at hcontrol
  obtain ⟨pair, hpair, rfl⟩ := List.mem_map.mp hcontrol
  have hnamed : pair.1.path ∈ (pairs.map nodeOfPair).map Prod.fst :=
    List.mem_map.mpr ⟨nodeOfPair pair, List.mem_map.mpr ⟨pair, hpair, rfl⟩, rfl⟩
  rw [htree, NodeTree.isPresent_putAll (.inr hnamed)] at habsent
  cases habsent

/-! ## What is inert -/

/-- **A family with a missing node is inert, but for lines of values.**  Opening a session on it,
setting one of its controls directly and restoring it change nothing and are denied.  A line of
values changes nothing if it has not one value for each control.  Else it is written up to the
first refused write, whether the nodes are there or not: a line that is written to the end makes
every missing node.  Nothing is saved either way. -/
theorem lacking_family_inert_but_for_lines (engine : Engine) (world : World) {id : String}
    {family : Family} (hknown : engine.family id = .ok family)
    (hlacks : (scene world).Lacks family) :
    (∀ command : Command, command.isGated id = true →
      let after := perform (engine.step command) world
      after.1.2 = engine ∧ scene after.2 = scene world ∧
        (scene world).Denies family after.1.1) ∧
    ∀ line,
      let after := perform (engine.step (.writeLine id line)) world
      after.1.2 = engine ∧ (scene after.2).saved = (scene world).saved ∧
      (family.pairsOfLine? line = none → after.1.1 = .flag false ∧ scene after.2 = scene world) ∧
      (∀ pairs, family.pairsOfLine? line = some pairs →
        ∃ written refused, pairs = written ++ refused ∧ after.1.1 = .flag refused.isEmpty ∧
          (scene after.2).tree.EqOutside ((refused.take 1).map fun pair => pair.1.path)
            ((scene world).tree.putAll (written.map nodeOfPair))) ∧
      (after.1.1 = .flag true → ¬(scene after.2).Lacks family) := by
  refine ⟨fun command hgated => step_of_isGated hknown hlacks hgated, fun line => ?_⟩
  have hrun : perform (engine.step (.writeLine id line)) world =
      ((.flag (perform (family.writeLine line) world).1, engine),
        (perform (family.writeLine line) world).2) := by
    simp only [Engine.step, Engine.writeLine, hknown]
    rfl
  rw [hrun, Family.writeLine_eq]
  cases hpairs : family.pairsOfLine? line with
  | none =>
      refine ⟨rfl, rfl, fun _ => ⟨rfl, rfl⟩, fun pairs hsome => ?_, fun htrue => ?_⟩
      · cases hsome
      · cases htrue
  | some pairs =>
      obtain ⟨written, refused, hsplit, hresult, hsaved, houtside⟩ :=
        writeUntilRefused_cases pairs world
      refine ⟨rfl, hsaved, fun hnone => ?_, fun given hgiven => ?_, fun htrue => ?_⟩
      · cases hnone
      · obtain rfl : pairs = given := Option.some.inj hgiven
        exact ⟨written, refused, hsplit, congrArg Answer.flag hresult, houtside⟩
      · have hempty : refused.isEmpty = true := hresult.symm.trans (Answer.flag.inj htrue)
        obtain rfl : refused = [] := List.isEmpty_iff.mp hempty
        obtain rfl : pairs = written := hsplit.trans (List.append_nil written)
        have htree : (scene (perform (writeUntilRefused pairs) world).2).tree =
            (scene world).tree.putAll (pairs.map nodeOfPair) := houtside.eq
        exact Family.not_lacks_of_written hpairs htree

/-- A machine with a car dock and no desk dock. -/
def carDockOnly : Bench where
  nodes := [("/sys/class/misc/dockaudio/cardock_enable", "0")]

theorem carDockOnly_inert_but_for_lines :
    let engine := Engine.start .builtin 0
    engine.family "dock_audio" = .ok .dockAudio ∧ (scene carDockOnly).Lacks .dockAudio ∧
      let applied := perform (engine.step (.applyDirect "dock_audio" "cardock_audio" 1)) carDockOnly
      scene applied.2 = scene carDockOnly ∧
        ∃ error, applied.1.1 = .refused error := by
  intro engine
  have hknown : engine.family "dock_audio" = .ok .dockAudio := by decide +kernel
  have hlacks : (scene carDockOnly).Lacks .dockAudio := by decide +kernel
  have hinert := lacking_family_inert_but_for_lines engine carDockOnly hknown hlacks
  obtain ⟨-, hscene, -⟩ := hinert.1 (.applyDirect "dock_audio" "cardock_audio" 1) (by decide)
  exact ⟨hknown, hlacks, hscene, .unsupported "dock_audio", by decide +kernel⟩

/-- A family with a missing node is not always inert: a line of values for both docks makes the
node of the desk dock. -/
theorem line_makes_missing_node : ¬∀ (engine : Engine) (bench : Bench) (id line : String)
    (family : Family), engine.family id = .ok family → (scene bench).Lacks family →
      (scene (perform (engine.step (.writeLine id line)) bench).2).tree = (scene bench).tree := by
  intro hinert
  have hsame := hinert (Engine.start .builtin 0) carDockOnly "dock_audio" "1 1" .dockAudio
    (by decide +kernel) (by decide +kernel)
  have hlook := congrArg
    (fun tree => NodeTree.look tree "/sys/class/misc/dockaudio/deskdock_enable") hsame
  exact absurd hlook (by decide +kernel)

end KernelControls
