import KernelControls.Proofs.Values.Encoding
import KernelControls.Proofs.Engine.Gates
import KernelControls.Proofs.Families.Validation
import KernelControls.Proofs.Backends.Watching

/-!
# Calibration lines

The values that a family's nodes hold are read as one line, and a line is written to the nodes of
a family, on the same machine or on another one.  A line that was read says all there is to say:
once it is written, it is read again, whatever the nodes of either machine held before.

## Strategy

Three things could go wrong on the way, and none does.  The line is cut at blanks, but no written
number has a blank (`valuesOfLine?_lineOfValues`).  The codec could lose a value that is written,
but a value that was read is one that the codec keeps: a magnitude is not negative, and a quotient
times the factor lies between zero and the number it came from (`keeps_of_decode`).  A later value
could be written over an earlier one, but the nodes are different.
-/

namespace KernelControls

/-! ## Lines of words -/

namespace Text

variable {blank : Char}

theorem words_append_blank (hblank : isBlank blank = true) (before after : List Char) :
    words (before ++ blank :: after) = words before ++ words after := by
  unfold words
  rw [List.splitOnP_append_cons before after hblank, List.filter_append]

theorem words_eq_singleton {word : List Char} (hsome : word ≠ [])
    (hword : ∀ character ∈ word, isBlank character = false) : words word = [word] := by
  unfold words
  rw [List.splitOnP_eq_singleton hword]
  simp [hsome]

/-- Words that are joined by blanks are found again. -/
theorem words_intercalate (hblank : isBlank blank = true) {texts : List (List Char)}
    (hwords : ∀ text ∈ texts, text ≠ [] ∧ ∀ character ∈ text, isBlank character = false) :
    words ([blank].intercalate texts) = texts := by
  induction texts with
  | nil => rfl
  | cons first rest ih =>
      obtain ⟨⟨hsome, hfirst⟩, hrest⟩ := List.forall_mem_cons.mp hwords
      cases rest with
      | nil =>
          rw [List.intercalate_singleton]
          exact words_eq_singleton hsome hfirst
      | cons second more =>
          rw [List.intercalate_cons_cons, List.append_assoc, List.singleton_append,
            words_append_blank hblank, words_eq_singleton hsome hfirst, ih hrest]
          rfl

end Text

theorem Decimal.write_ne_nil (number : Int) : write number ≠ [] := by
  unfold write
  split
  · exact List.cons_ne_nil _ _
  · exact Nat.toDigits_ne_nil

@[simp] theorem valuesOfLine?_lineOfValues (values : List Int64) :
    valuesOfLine? (lineOfValues values) = some values := by
  have hline : (lineOfValues values).toList =
      [' '].intercalate (values.map fun value => Decimal.write value.toInt) := by
    unfold lineOfValues
    rw [String.toList_intercalate, List.map_map]
    congr 1
    exact List.map_congr_left fun value _ => String.toList_ofList
  have hwords : ∀ text ∈ values.map fun value => Decimal.write value.toInt,
      text ≠ [] ∧ ∀ character ∈ text, Text.isBlank character = false := by
    intro text htext
    obtain ⟨value, -, rfl⟩ := List.mem_map.mp htext
    exact ⟨Decimal.write_ne_nil _, Text.isBlank_eq_false_of_mem_write⟩
  unfold valuesOfLine?
  rw [hline, Text.words_intercalate (by decide) hwords]
  clear hline hwords
  induction values with
  | nil => rfl
  | cons value rest ih => rw [List.map_cons, List.mapM_cons, Decimal.readWord?_write, ih]; rfl

/-! ## Values that were read -/

/-- A quotient times the divisor lies between zero and the number that was divided. -/
theorem tdiv_mul_between (number : Int) {divisor : Int} (hdivisor : 0 ≤ divisor) :
    0 ≤ number.tdiv divisor * divisor ∧ number.tdiv divisor * divisor ≤ number ∨
      number ≤ number.tdiv divisor * divisor ∧ number.tdiv divisor * divisor ≤ 0 := by
  rcases Int.le_total 0 number with hnonneg | hnonpos
  · left
    refine ⟨Int.mul_nonneg (Int.tdiv_nonneg hnonneg hdivisor) hdivisor, ?_⟩
    rw [Int.mul_comm]
    exact Int.mul_tdiv_self_le hnonneg
  · -- The same for the magnitude, whose quotient is that of the number with the sign turned.
    right
    have hmagnitude : 0 ≤ -number := by omega
    have hquotient : (-number).tdiv divisor * divisor = -(number.tdiv divisor * divisor) := by
      rw [Int.neg_tdiv, Int.neg_mul]
    have hlow := Int.mul_nonneg (Int.tdiv_nonneg hmagnitude hdivisor) hdivisor
    have hhigh : divisor * (-number).tdiv divisor ≤ -number := Int.mul_tdiv_self_le hmagnitude
    rw [Int.mul_comm] at hhigh
    omega

namespace Codec

theorem keeps_of_ofRaw? {codec : Codec} {number value : Int64}
    (hfactor : ∀ factor, codec = .linear factor → 1 ≤ factor)
    (hread : codec.ofRaw? number = some value) : codec.Keeps value := by
  cases codec with
  | identity => trivial
  | signedOffset =>
      have hmagnitude : value.toInt = (number.toInt.natAbs : Int) := Decimal.toInt_of_toWord? hread
      have hzero : (0 : Int64).toInt = 0 := rfl
      exact Int64.le_iff_toInt_le.mpr (by omega)
  | linear factor =>
      have hone : 1 ≤ factor.toInt := Int64.le_iff_toInt_le.mp (hfactor factor rfl)
      have hquotient : value.toInt = number.toInt.tdiv (max factor.toInt 1) :=
        Decimal.toInt_of_toWord? hread
      rw [Int.max_eq_left hone] at hquotient
      have hlow := Int64.minValue_le_toInt number
      have hhigh := Int64.toInt_le number
      have hmin := Int64.toInt_minValue
      have hmax := Int64.toInt_maxValue
      have hbetween := tdiv_mul_between number.toInt (by omega : 0 ≤ factor.toInt)
      rw [keeps_linear (hfactor factor rfl), hquotient]
      omega

/-- A value that was read is one that the codec keeps, whatever the text was. -/
theorem keeps_of_decode {codec : Codec} {text : String} {value : Int64}
    (hfactor : ∀ factor, codec = .linear factor → 1 ≤ factor)
    (hread : codec.decode text = .ok value) : codec.Keeps value := by
  unfold decode at hread
  dsimp only at hread
  split at hread
  · next found hfound =>
      obtain ⟨number, -, hnumber⟩ := Option.bind_eq_some_iff.mp hfound
      exact keeps_of_ofRaw? hfactor (Except.ok.inj hread ▸ hnumber)
  · cases hread

end Codec

section Reading

variable {World : Type} [NodeAccess (StateM World)]

theorem decode_of_readValue {control : Control} {value : Int64} {world : World}
    (hread : (perform (control.readValue : StateM World _) world).1 = .ok value) :
    ∃ text, control.codec.decode text = .ok value := by
  unfold Control.readValue at hread
  rw [perform_bind] at hread
  cases hfound : (perform (NodeAccess.read control.path) world).1 with
  | error error => rw [hfound] at hread; cases hread
  | ok text =>
      rw [hfound] at hread
      refine ⟨text, ?_⟩
      cases hdecoded : control.codec.decode text with
      | error error => simp only [hdecoded] at hread; cases hread
      | ok found => simp only [hdecoded] at hread; exact congrArg _ (Except.ok.inj hread)

/-- Every value of a reading is kept by the codec of its control. -/
theorem keeps_of_readValues {controls : List Control}
    (hcontrols : ∀ control ∈ controls, control.WellFormed) {values : List Int64} {world : World}
    (hread : (perform (readValues controls : StateM World _) world).1 = .ok values) :
    List.Forall₂ (fun control value => control.codec.Keeps value) controls values := by
  induction controls generalizing values world with
  | nil =>
      obtain rfl : [] = values := Except.ok.inj hread
      exact .nil
  | cons control rest ih =>
      obtain ⟨hcontrol, hrest⟩ := List.forall_mem_cons.mp hcontrols
      unfold readValues at hread
      rw [perform_bind] at hread
      cases hvalue : (perform (control.readValue : StateM World _) world).1 with
      | error error => rw [hvalue] at hread; cases hread
      | ok value =>
          simp only [hvalue] at hread
          rw [perform_bind] at hread
          cases hothers : (perform (readValues rest : StateM World _)
              (perform (control.readValue : StateM World _) world).2).1 with
          | error error => simp only [hothers] at hread; cases hread
          | ok others =>
              simp only [hothers] at hread
              obtain rfl : value :: others = values := Except.ok.inj hread
              obtain ⟨text, hdecoded⟩ := decode_of_readValue hvalue
              exact .cons (Codec.keeps_of_decode hcontrol.factor hdecoded) (ih hrest hothers)

end Reading

/-! ## Values that were written -/

section Writing

variable {World Place : Type} [DecidableEq Place] [NodeAccess (StateM World)]
  [LawfulNodes World Place]

/-- A node that shows the text of a value that is kept is read as this value. -/
theorem readValue_of_shown {control : Control} {value : Int64} {world : World}
    (hshown : (LawfulNodes.tree world).look control.path = .text (control.codec.encode value))
    (hkeeps : control.codec.Keeps value) :
    (perform (control.readValue : StateM World _) world).1 = .ok value ∧
      LawfulNodes.tree (perform (control.readValue : StateM World _) world).2 =
        LawfulNodes.tree world := by
  have hread := LawfulNodes.read_answer control.path _ world hshown
  have htree := LawfulNodes.read_tree control.path world
  unfold Control.readValue
  rw [perform_bind, hread]
  dsimp only
  rw [(control.codec.decode_encode_eq_ok_iff value).mpr hkeeps]
  exact ⟨rfl, htree⟩

theorem readValues_of_shown {pairs : List (Control × Int64)} {world : World}
    (hshown : ∀ pair ∈ pairs,
      (LawfulNodes.tree world).look pair.1.path = .text (pair.1.codec.encode pair.2))
    (hkeeps : ∀ pair ∈ pairs, pair.1.codec.Keeps pair.2) :
    (perform (readValues (pairs.map Prod.fst) : StateM World _) world).1 =
      .ok (pairs.map Prod.snd) := by
  induction pairs generalizing world with
  | nil => rfl
  | cons pair rest ih =>
      obtain ⟨hpair, hothers⟩ := List.forall_mem_cons.mp hshown
      obtain ⟨hkept, hmore⟩ := List.forall_mem_cons.mp hkeeps
      obtain ⟨hvalue, htree⟩ := readValue_of_shown hpair hkept
      rw [← htree] at hothers
      rw [List.map_cons, List.map_cons, readValues, perform_bind, hvalue]
      dsimp only
      rw [perform_bind, ih hothers hmore]
      rfl

theorem writeUntilRefused_of_calm {pairs : List (Control × Int64)} {watched : Watched World}
    (hcalm : (perform (writeUntilRefused pairs) watched).2.Calm) :
    watched.Calm ∧ (perform (writeUntilRefused pairs) watched.world).1 = true ∧
      LawfulNodes.tree (perform (writeUntilRefused pairs) watched.world).2 =
        (LawfulNodes.tree watched.world).putAll (pairs.map nodeOfPair) := by
  induction pairs generalizing watched with
  | nil => exact ⟨hcalm, rfl, rfl⟩
  | cons pair rest ih =>
      -- A refusal is not forgotten, so there was none at the first write.
      have hfirst : (perform (pair.1.write pair.2) watched).2.Calm := by
        cases hanswer : (perform (pair.1.write pair.2) watched).1 with
        | error error => rwa [writeUntilRefused_cons_refused rest hanswer] at hcalm
        | ok done => exact (ih (writeUntilRefused_cons_accepted rest hanswer ▸ hcalm)).1
      obtain ⟨hbefore, haccepted⟩ := Watched.calm_of_attempt hfirst
      rw [writeUntilRefused_cons_accepted rest (show (perform (pair.1.write pair.2) watched).1 =
        .ok () from haccepted)] at hcalm
      obtain ⟨-, hresult, htree⟩ := ih hcalm
      rw [writeUntilRefused_cons_accepted rest haccepted]
      have hput := LawfulNodes.write_accepted pair.1.path (pair.1.codec.encode pair.2)
        watched.world haccepted
      refine ⟨hbefore, hresult, htree.trans ?_⟩
      exact congrArg (fun tree => NodeTree.putAll tree (rest.map nodeOfPair)) hput

end Writing

/-! ## A line on two machines -/

section Lines

variable {World : Type} [NodeAccess (StateM World)] {engine : Engine} {id : String}
  {family : Family}

theorem Engine.currentValues_of_known (hknown : engine.family id = .ok family) (world : World) :
    perform (engine.currentValues id) world = perform (readValues family.controls) world := by
  unfold currentValues
  rw [hknown]

theorem Engine.currentLine_of_known (hknown : engine.family id = .ok family) (world : World) :
    (perform (engine.currentLine id) world).1 =
      (perform (readValues family.controls) world).1.map lineOfValues := by
  rw [← currentValues_of_known hknown]
  rfl

theorem Engine.writeLine_of_known (hknown : engine.family id = .ok family) (line : String)
    (world : World) : perform (engine.writeLine id line) world =
      (.ok (perform (family.writeLine line) world).1,
        (perform (family.writeLine line) world).2) := by
  unfold writeLine
  rw [hknown]
  rfl

/-- One value for each control is written, pair by pair. -/
theorem Family.writeLine_lineOfValues {values : List Int64}
    (hlength : values.length = family.controls.length) :
    (family.writeLine (lineOfValues values) : StateM World Bool) =
      writeUntilRefused (family.controls.zip values) := by
  unfold writeLine
  rw [valuesOfLine?_lineOfValues]
  exact if_pos hlength

end Lines

variable {Source Target Place : Type} [NodeAccess (StateM Source)] [DecidableEq Place]
  [NodeAccess (StateM Target)] [LawfulNodes Target Place]

/-- **A calibration line can be written anywhere.**  Take a line that was read from the nodes of an
accepted family, whatever texts they held, and write it on any machine on which the nodes of the
family are different ones.  If no write is refused, then all of it is written, and the line and the
values that are read there afterwards are those that were read before, whatever texts those nodes
held. -/
theorem calibration_written_back (engine : Engine) (source : Source) (target : Target)
    {id line : String} {family : Family} (hknown : engine.family id = .ok family)
    (hvalid : family.validate = .ok ())
    (hdistinct : (family.controls.map fun control =>
      (LawfulNodes.tree target).place control.path).Nodup)
    (hread : (perform (engine.currentLine id) source).1 = .ok line)
    (hcalm : (perform (engine.writeLine id line) (Watched.mk target false)).2.Calm) :
    let written := perform (engine.writeLine id line) target
    written.1 = .ok true ∧
      (perform (engine.currentLine id) written.2).1 = .ok line ∧
      (perform (engine.currentValues id) written.2).1 =
        (perform (engine.currentValues id) source).1 := by
  have hformed := family.fault?_eq_none_iff.mp (Family.fault?_of_validate hvalid)
  rw [Engine.currentLine_of_known hknown] at hread
  rw [Engine.currentValues_of_known hknown source]
  cases hvalues : (perform (readValues family.controls) source).1 with
  | error error => rw [hvalues] at hread; cases hread
  | ok values =>
      rw [hvalues] at hread
      obtain rfl : lineOfValues values = line := Except.ok.inj hread
      have hkept := keeps_of_readValues hformed.wellFormed hvalues
      have hlength : values.length = family.controls.length := hkept.length_eq.symm
      have hcontrols : (family.controls.zip values).map Prod.fst = family.controls :=
        List.map_fst_zip (Nat.le_of_eq hlength.symm)
      have hsecond : (family.controls.zip values).map Prod.snd = values :=
        List.map_snd_zip (Nat.le_of_eq hlength)
      simp only [Engine.writeLine_of_known hknown, Family.writeLine_lineOfValues hlength]
        at hcalm ⊢
      obtain ⟨-, hresult, htree⟩ := writeUntilRefused_of_calm hcalm
      dsimp only at hresult htree
      -- Every node shows what was written to it, since no two writes went to one place.
      have hshown : ∀ pair ∈ family.controls.zip values, (LawfulNodes.tree (perform
          (writeUntilRefused (family.controls.zip values)) target).2).look pair.1.path =
            .text (pair.1.codec.encode pair.2) := by
        intro pair hpair
        have hapart : (((family.controls.zip values).map nodeOfPair).map fun node =>
            (LawfulNodes.tree target).place node.1).Nodup := by
          rw [← hcontrols, List.map_map] at hdistinct
          rwa [List.map_map]
        rw [htree]
        exact NodeTree.look_putAll _ hapart (List.mem_map_of_mem hpair)
      have hback := readValues_of_shown hshown fun pair hpair =>
        (List.forall₂_iff_zip.mp hkept).2 hpair
      rw [hcontrols, hsecond] at hback
      refine ⟨congrArg _ hresult, ?_, ?_⟩
      · rw [Engine.currentLine_of_known hknown, hback]
        rfl
      · rw [Engine.currentValues_of_known hknown, hback]

/-- A display whose nodes hold numbers with blanks, signs and zeros around them, an odd number where
two count as one, the greatest number, and the offsets as the kernel echoes them. -/
def worn : Bench where
  nodes := (Family.colorTuning.controls.map Control.path).zip
    ["+0004000000123\n", " 9223372036854775807", "-7\n", "-12\n", "\t0040 ", "-0"]

/-- A display that was never calibrated. -/
def uncalibrated : Bench where
  nodes := (Family.colorTuning.controls.map Control.path).map fun path => (path, "none")

theorem worn_written_back :
    let engine := Engine.start .builtin 0
    let line := "2000000061 4611686018427387903 -3 12 40 0"
    (perform (engine.currentLine "color_tuning") worn).1 = .ok line ∧
      let written := perform (engine.writeLine "color_tuning" line) uncalibrated
      written.1 = .ok true ∧
        (perform (engine.currentLine "color_tuning") written.2).1 = .ok line := by
  intro engine line
  have hread : (perform (engine.currentLine "color_tuning") worn).1 = .ok line := by
    decide +kernel
  have hwritten := calibration_written_back engine worn uncalibrated
    (show engine.family "color_tuning" = .ok .colorTuning by decide +kernel) (by decide +kernel)
    (by decide +kernel) hread (show _ = false by decide +kernel)
  exact ⟨hread, hwritten.1, hwritten.2.1⟩

end KernelControls
