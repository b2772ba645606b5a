import KernelControls.Proofs.Backends.Auditing
import KernelControls.Proofs.Engine.Gates
import KernelControls.Proofs.Values.Numerals

/-!
# Lines are written up to the first refusal

A line of values is taken apart before anything is written.  If it has a word that is no number, or
not one word for each control, no node is asked.  Otherwise the nodes are written in the order of
the controls, and the first one that refuses ends it: the nodes before it have their texts, and the
nodes after it were not even asked.

## Strategy

Which writes were attempted is `Answered.upTo`: accepted ones up to some place, and at this place
one refusal, unless the requests end there.  On firm nodes the place is known beforehand, because no
write changes which nodes refuse.  So `writeUntilRefused_exact` is an induction over the pairs of
controls and values, and the rest is reading the line.
-/

namespace KernelControls

/-! ## Requests up to a refusal -/

namespace Answered

variable {Request : Type}

/-- Requests that were made one after the other until one was refused, the one at the given place.
The later ones were not made. -/
def upTo (place : Nat) (requests : List Request) : Answered Request :=
  (requests.take place).map (·, true) ++ ((requests.drop place).take 1).map (·, false)

theorem upTo_succ_cons (place : Nat) (request : Request) (rest : List Request) :
    upTo (place + 1) (request :: rest) = (request, true) :: upTo place rest := rfl

theorem accepted_upTo (place : Nat) (requests : List Request) :
    accepted (upTo place requests) = requests.take place := by
  induction requests generalizing place with
  | nil =>
      unfold upTo
      rw [List.take_nil, List.drop_nil]
      rfl
  | cons request rest ih =>
      cases place with
      | zero => rfl
      | succ before =>
          rw [upTo_succ_cons, accepted_cons, if_pos rfl, ih]
          rfl

theorem inForm_upTo {Other : Type} (form : Request → Other) (place : Nat)
    (requests : List Request) : inForm form (upTo place requests) =
      upTo place (requests.map form) := by
  unfold inForm upTo
  simp only [List.map_append, List.map_take, List.map_drop, List.map_map]
  rfl

end Answered

/-! ## Reading the line -/

/-- A line with a value for each control is one whose words spell them. -/
theorem Family.pairsOfLine?_eq_some_iff {family : Family} {line : String}
    {pairs : List (Control × Int64)} : family.pairsOfLine? line = some pairs ↔
      ∃ values, LineSpells line values ∧ values.length = family.controls.length ∧
        pairs = family.controls.zip values := by
  unfold pairsOfLine?
  constructor
  · intro hpairs
    split at hpairs
    · cases hpairs
    · next values hvalues =>
        split at hpairs
        · next hlength =>
            exact ⟨values, valuesOfLine?_eq_some_iff.mp hvalues, hlength,
              (Option.some.inj hpairs).symm⟩
        · cases hpairs
  · rintro ⟨values, hspells, hlength, rfl⟩
    rw [valuesOfLine?_eq_some_iff.mpr hspells]
    exact if_pos hlength

/-- What a family cannot take: a line with a word that is no 64-bit number, or with more or fewer
words than there are controls. -/
def Family.Rejects (family : Family) (line : String) : Prop :=
  (∃ word ∈ Text.words line.toList, ∀ value : Int64, ¬Decimal.Spells word value.toInt) ∨
    (Text.words line.toList).length ≠ family.controls.length

/-- A line spells some values just if each of its words is a number. -/
theorem exists_lineSpells_iff {line : String} : (∃ values, LineSpells line values) ↔
    ∀ word ∈ Text.words line.toList, ∃ value : Int64, Decimal.Spells word value.toInt := by
  unfold LineSpells
  generalize Text.words line.toList = words
  induction words with
  | nil => exact iff_of_true ⟨[], .nil⟩ fun word hword => absurd hword List.not_mem_nil
  | cons word rest ih =>
      rw [List.forall_mem_cons, ← ih]
      constructor
      · rintro ⟨values, hvalues⟩
        obtain ⟨value, others, hvalue, hothers, -⟩ := List.forall₂_cons_left_iff.mp hvalues
        exact ⟨⟨value, hvalue⟩, others, hothers⟩
      · rintro ⟨⟨value, hvalue⟩, others, hothers⟩
        exact ⟨value :: others, .cons hvalue hothers⟩

theorem Family.rejects_iff {family : Family} {line : String} :
    family.Rejects line ↔ family.pairsOfLine? line = none := by
  rw [Option.eq_none_iff_forall_ne_some]
  constructor
  · rintro hrejects pairs hpairs
    obtain ⟨values, hspells, hlength, -⟩ := pairsOfLine?_eq_some_iff.mp hpairs
    rcases hrejects with ⟨word, hword, hnone⟩ | hcount
    · obtain ⟨value, hvalue⟩ := exists_lineSpells_iff.mp ⟨values, hspells⟩ word hword
      exact hnone value hvalue
    · exact hcount (hspells.length_eq.trans hlength)
  · intro hnone
    by_contra hfits
    unfold Rejects at hfits
    push Not at hfits
    obtain ⟨hwords, hcount⟩ := hfits
    -- All words are numbers, and there is one for each control.
    obtain ⟨values, hspells⟩ := exists_lineSpells_iff.mpr hwords
    have hlength : values.length = family.controls.length :=
      hspells.length_eq.symm.trans hcount
    exact hnone _ (pairsOfLine?_eq_some_iff.mpr ⟨values, hspells, hlength, rfl⟩)

/-! ## Writing the values -/

variable {World Place : Type} [DecidableEq Place] [NodeAccess (StateM World)]
  [PreferenceAccess (StateM World)] [LawfulBackend World Place] [FirmNodes World Place]

/-- The place of the first control whose node refuses writes, or the number of the controls. -/
def firstRefusing (world : World) (controls : List Control) : Nat :=
  controls.findIdx fun control => FirmNodes.refuses world control.path

theorem firstRefusing_cons (world : World) (control : Control) (rest : List Control) :
    firstRefusing world (control :: rest) =
      if FirmNodes.refuses world control.path then 0 else firstRefusing world rest + 1 := by
  unfold firstRefusing
  rw [List.findIdx_cons]
  cases FirmNodes.refuses world control.path <;> rfl

/-- Values are written to the nodes up to the first that refuses. -/
theorem writeUntilRefused_exact (pairs : List (Control × Int64)) (world : Audited World) :
    let after := perform (writeUntilRefused pairs) world
    let place := firstRefusing world (pairs.map Prod.fst)
    after.1 = decide (place = pairs.length) ∧
      WritesEach nodeOfPair (Answered.upTo place pairs) world after.2 := by
  induction pairs generalizing world with
  | nil => exact ⟨rfl, .nil world⟩
  | cons pair rest ih =>
      let written := perform (pair.1.write pair.2) world
      have hfirst : WritesEach nodeOfPair [(pair, written.1.isOk)] world written.2 :=
        WritesEach.single pair world
      have hanswer : written.1.isOk = !FirmNodes.refuses world pair.1.path :=
        FirmNodes.isOk_write pair.1.path (pair.1.codec.encode pair.2) world
      rw [List.map_cons, firstRefusing_cons]
      rw [hanswer] at hfirst
      cases hrefuses : FirmNodes.refuses world pair.1.path with
      | true =>
          rw [hrefuses] at hanswer hfirst
          obtain ⟨error, herror⟩ : ∃ error, written.1 = .error error := by
            cases hresult : written.1 with
            | error error => exact ⟨error, rfl⟩
            | ok done => rw [hresult] at hanswer; cases hanswer
          rw [writeUntilRefused_cons_refused rest herror]
          exact ⟨rfl, hfirst⟩
      | false =>
          -- The first node takes its text, and which nodes refuse stays the same.
          rw [hrefuses] at hanswer hfirst
          obtain ⟨hresult, hrest⟩ := ih written.2
          have hsame : firstRefusing written.2 (rest.map Prod.fst) =
              firstRefusing world (rest.map Prod.fst) := by
            unfold firstRefusing
            rw [show FirmNodes.refuses written.2 = FirmNodes.refuses world from
              FirmNodes.refuses_write pair.1.path (pair.1.codec.encode pair.2) world]
          rw [hsame] at hresult hrest
          rw [writeUntilRefused_cons_accepted rest (eq_ok_of_isOk hanswer)]
          refine ⟨hresult.trans ?_, hfirst.cons hrest⟩
          exact decide_eq_decide.mpr Nat.succ_inj.symm

/-- **A line of values is written whole, or up to the first refusal, or not at all.**  Take any
family, its nodes repeated or not, with any of the nodes refusing writes, and any text.  If a word
of the text is no 64-bit number, or there are more or fewer words than controls, the answer is no
and nothing is asked of the nodes.  Otherwise the words spell values, and the nodes before the first
that refuses get their texts, one after the other.  This one is tried and stays as it is, and no
node of a later control is tried at all.  The answer is yes just if there is none that refuses.
Nothing is saved and nothing is tried to be saved. -/
theorem Family.writeLine_up_to_refusal (family : Family) (line : String) (world : Audited World) :
    let after := perform (family.writeLine line) world
    (scene after.2).saved = (scene world).saved ∧ after.2.saves = world.saves ∧
    (family.Rejects line → after.1 = false ∧ after.2 = world) ∧
    (¬family.Rejects line → ∃ values,
      LineSpells line values ∧ values.length = family.controls.length ∧
      let nodes := (family.controls.zip values).map nodeOfPair
      let place := firstRefusing world family.controls
      (scene after.2).tree = (scene world).tree.putAll (nodes.take place) ∧
      after.2.writes = world.writes ++ Answered.upTo place nodes ∧
      (after.1 = true ↔ place = family.controls.length)) := by
  intro after
  have hrun := family.writeLine_eq line world
  rw [rejects_iff]
  cases hpairs : family.pairsOfLine? line with
  | none =>
      rw [hpairs] at hrun
      have hsame : after = (false, world) := hrun
      rw [hsame]
      exact ⟨rfl, rfl, fun _ => ⟨rfl, rfl⟩, fun hsome => absurd rfl hsome⟩
  | some pairs =>
      rw [hpairs] at hrun
      replace hrun : after = perform (writeUntilRefused pairs) world := hrun
      obtain ⟨hresult, hwrites⟩ := writeUntilRefused_exact pairs world
      obtain ⟨values, hspells, hlength, hzip⟩ := pairsOfLine?_eq_some_iff.mp hpairs
      rw [map_fst_of_pairsOfLine? hpairs] at hresult hwrites
      rw [← hrun] at hresult hwrites
      refine ⟨hwrites.saved, hwrites.saves, fun hnone => absurd hnone (by simp), fun _ =>
        ⟨values, hspells, hlength, ?_⟩⟩
      have hcount : pairs.length = family.controls.length := by
        rw [← map_fst_of_pairsOfLine? hpairs, List.length_map]
      rw [← hzip]
      refine ⟨?_, ?_, ?_⟩
      · rw [hwrites.tree, Answered.accepted_upTo, List.map_take]
      · rw [hwrites.writes, Answered.inForm_upTo]
      · rw [hresult, decide_eq_true_iff, hcount]

/-- The second node refuses.  The third control has the node of the first one, under another
spelling, and does not get its turn. -/
example :
    let family : Family := ⟨"gains", "Gains", .session,
      [⟨"left", "/n/left", .linear 2, 0, 9, 0⟩, ⟨"right", "/n/right", .identity, 0, 9, 0⟩,
        ⟨"both", "/n/./left", .identity, 0, 9, 0⟩]⟩
    let world : Audited Bench :=
      { world := { nodes := [("/n/left", "0"), ("/n/right", "0")], refusing := ["/n//right"] } }
    let after := perform (family.writeLine " +1\t02 3\n") world
    after.1 = false ∧ after.2.world.nodes = [("/n/left", "2"), ("/n/right", "0")] ∧
      after.2.writes = [(("/n/left", "2"), true), (("/n/right", "2"), false)] := by
  decide +kernel

end KernelControls
