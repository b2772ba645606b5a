import KernelControls.Proofs.Values.Calibration
import KernelControls.Proofs.Values.Numerals
import Mathlib.Data.List.DropRight

/-!
# What a codec reads

Anything can stand in a control node, so reading is settled for every text and every codec, a
linear factor below one included.  The blanks at both ends are set aside.  What is left either
spells a number that the codec has a value for, and then this value is read, or it is exactly what
the error names.

## Strategy

Three things are stated without the functions that read.  `Text.Stripped` says what is left of a
text, `Decimal.Spells` which numbers are spelled, and `Codec.Accepts` and `Codec.meaning` what a
codec makes of a number, over unbounded integers.  Reading computes with 64 bits, and it agrees
because no meaning of an accepted number is beyond the limits (`exists_toInt_eq_meaning`): a
quotient lies between zero and the number that was divided.  A value that was read is one that the
codec keeps, so it is written without being clamped.
-/

namespace KernelControls

/-! ## Blanks at the ends -/

namespace Text

/-- What is left of a text when the blanks at its ends are gone. -/
structure Stripped (core text : List Char) : Prop where
  around : ∃ before after, text = before ++ core ++ after ∧
    (∀ character ∈ before, isBlank character = true) ∧
    ∀ character ∈ after, isBlank character = true
  head : ∀ character, core.head? = some character → isBlank character = false
  last : ∀ character, core.getLast? = some character → isBlank character = false

theorem stripped_trim (text : List Char) : Stripped (trim text) text := by
  have htrim : trim text = (text.dropWhile isBlank).rdropWhile isBlank := rfl
  rw [htrim]
  refine ⟨⟨text.takeWhile isBlank, (text.dropWhile isBlank).rtakeWhile isBlank, ?_,
    fun _ => List.mem_takeWhile_imp, fun _ => List.mem_rtakeWhile_imp⟩, ?_, ?_⟩
  · rw [List.append_assoc, List.rdropWhile_append_rtakeWhile, List.takeWhile_append_dropWhile]
  · -- What is left begins as the text does behind its first blanks.
    intro character hhead
    obtain ⟨after, hafter⟩ := List.rdropWhile_prefix isBlank (text.dropWhile isBlank)
    have hfirst := List.head?_dropWhile_not isBlank text
    rw [← hafter, List.head?_append, hhead] at hfirst
    exact hfirst
  · intro character hlast
    obtain ⟨hsome, rfl⟩ := List.mem_getLast?_eq_getLast hlast
    exact Bool.eq_false_iff.mpr (List.rdropWhile_last_not isBlank _ hsome)

/-- Blanks are dropped up to the first character that is none. -/
theorem dropWhile_isBlank_append {before rest : List Char}
    (hbefore : ∀ character ∈ before, isBlank character = true)
    (hhead : ∀ character, rest.head? = some character → isBlank character = false) :
    (before ++ rest).dropWhile isBlank = rest := by
  rw [List.dropWhile_append_of_pos hbefore]
  cases rest with
  | nil => rfl
  | cons first more => rw [List.dropWhile_cons_of_neg (by simp [hhead first rfl])]

/-- Only one thing is left of a text. -/
theorem Stripped.eq_trim {core text : List Char} (hstripped : Stripped core text) :
    core = trim text := by
  obtain ⟨⟨before, after, rfl, hbefore, hafter⟩, hhead, hlast⟩ := hstripped
  unfold trim
  rw [List.append_assoc]
  cases core with
  | nil =>
      rw [List.nil_append, List.dropWhile_append_of_pos hbefore,
        List.dropWhile_eq_nil_iff.mpr hafter]
      rfl
  | cons first rest =>
      have hfront : (before ++ (first :: rest ++ after)).dropWhile isBlank =
          first :: rest ++ after :=
        dropWhile_isBlank_append hbefore hhead
      have hback : (after.reverse ++ (first :: rest).reverse).dropWhile isBlank =
          (first :: rest).reverse := by
        refine dropWhile_isBlank_append ?_ ?_
        · exact fun character hmem => hafter character (List.mem_reverse.mp hmem)
        · rw [List.head?_reverse]
          exact hlast
      rw [hfront, List.reverse_append, hback, List.reverse_reverse]

theorem stripped_iff {core text : List Char} : Stripped core text ↔ core = trim text := by
  constructor
  · exact Stripped.eq_trim
  · rintro rfl
    exact stripped_trim text

end Text

/-! ## Quotients -/

/-- A quotient lies between zero and the number that was divided. -/
theorem tdiv_between (number : Int) {divisor : Int} (hdivisor : 0 ≤ divisor) :
    0 ≤ number.tdiv divisor ∧ number.tdiv divisor ≤ number ∨
      number ≤ number.tdiv divisor ∧ number.tdiv divisor ≤ 0 := by
  rcases Int.le_total 0 number with hnonneg | hnonpos
  · exact .inl ⟨Int.tdiv_nonneg hnonneg hdivisor, Int.tdiv_le_self divisor hnonneg⟩
  · -- The same for the magnitude, whose quotient is that of the number with the sign turned.
    right
    have hmagnitude : 0 ≤ -number := by omega
    have hlow := Int.tdiv_nonneg hmagnitude hdivisor
    have hhigh := Int.tdiv_le_self divisor hmagnitude
    rw [Int.neg_tdiv] at hlow hhigh
    omega

theorem tdiv_mul_eq_sub_tmod (number divisor : Int) :
    number.tdiv divisor * divisor = number - number.tmod divisor := by
  have hdivided := Int.mul_tdiv_add_tmod number divisor
  rw [Int.mul_comm] at hdivided
  omega

/-- The whole numbers that a 64-bit word can hold. -/
theorem exists_toInt_eq_iff {number : Int} : (∃ word : Int64, word.toInt = number) ↔
    Int64.minValue.toInt ≤ number ∧ number ≤ Int64.maxValue.toInt := by
  constructor
  · rintro ⟨word, rfl⟩
    exact ⟨Int64.minValue_le_toInt word, Int64.toInt_le word⟩
  · rintro ⟨hlow, hhigh⟩
    exact ⟨Int64.ofIntLE number hlow hhigh, Int64.toInt_ofIntLE⟩

namespace Codec

variable {codec : Codec} {number : Int} {value : Int64}

/-! ## Numbers and their meaning -/

/-- What a codec divides the number in the node by. -/
def divisor : Codec → Int
  | identity | signedOffset => 1
  | linear factor => max factor.toInt 1

/-- The value that a number stands for: the number, its magnitude, or its quotient with the
fraction dropped. -/
def meaning : Codec → Int → Int
  | identity, number => number
  | signedOffset, number => number.natAbs
  | linear factor, number => number.tdiv (linear factor).divisor

/-- The numbers that have a meaning: those of 64 bits, except that the least has no magnitude. -/
structure Accepts (codec : Codec) (number : Int) : Prop where
  low : Int64.minValue.toInt ≤ number
  high : number ≤ Int64.maxValue.toInt
  magnitude : codec = signedOffset → number ≠ Int64.minValue.toInt

theorem one_le_divisor (codec : Codec) : 1 ≤ codec.divisor := by
  cases codec with
  | identity => exact Int.le_refl 1
  | signedOffset => exact Int.le_refl 1
  | linear factor => exact Int.le_max_right _ _

/-- The meaning of a number of 64 bits has 64 bits just if the number is accepted. -/
theorem exists_toInt_eq_meaning (hlow : Int64.minValue.toInt ≤ number)
    (hhigh : number ≤ Int64.maxValue.toInt) :
    (∃ value : Int64, value.toInt = codec.meaning number) ↔ codec.Accepts number := by
  have hmin := Int64.toInt_minValue
  have hmax := Int64.toInt_maxValue
  rw [exists_toInt_eq_iff]
  constructor
  · rintro ⟨-, hbelow⟩
    refine ⟨hlow, hhigh, ?_⟩
    -- The magnitude of the least number is the first one beyond the limits.
    rintro rfl rfl
    exact absurd hbelow (by decide +kernel)
  · intro haccepts
    cases codec with
    | identity => exact ⟨hlow, hhigh⟩
    | signedOffset =>
        have hleast := haccepts.magnitude rfl
        show Int64.minValue.toInt ≤ (number.natAbs : Int) ∧
          (number.natAbs : Int) ≤ Int64.maxValue.toInt
        omega
    | linear factor =>
        have hdivisor := (linear factor).one_le_divisor
        have hbetween := tdiv_between number (by omega : 0 ≤ (linear factor).divisor)
        show Int64.minValue.toInt ≤ number.tdiv _ ∧ number.tdiv _ ≤ Int64.maxValue.toInt
        omega

theorem ofRaw?_eq_some_iff {number : Int64} :
    codec.ofRaw? number = some value ↔ value.toInt = codec.meaning number.toInt := by
  cases codec with
  | identity => exact Option.some_inj.trans (Int64.toInt_inj.symm.trans eq_comm)
  | signedOffset => exact Decimal.toWord?_eq_some_iff
  | linear factor => exact Decimal.toWord?_eq_some_iff

/-! ## Texts and their value -/

variable {text : String}

theorem decode_eq_ok_iff : codec.decode text = .ok value ↔
    ∃ number, Decimal.Spells (Text.trim text.toList) number ∧ codec.Accepts number ∧
      value.toInt = codec.meaning number := by
  have hdecode : codec.decode text = .ok value ↔
      (Decimal.readWord? (Text.trim text.toList)).bind codec.ofRaw? = some value := by
    unfold decode
    dsimp only
    split
    · next found hfound => rw [hfound]; simp
    · next hfound => rw [hfound]; simp
  rw [hdecode, Option.bind_eq_some_iff]
  constructor
  · rintro ⟨word, hword, hvalue⟩
    rw [Decimal.readWord?_eq_some_iff] at hword
    rw [ofRaw?_eq_some_iff] at hvalue
    exact ⟨word.toInt, hword,
      (exists_toInt_eq_meaning (Int64.minValue_le_toInt word) (Int64.toInt_le word)).mp
        ⟨value, hvalue⟩,
      hvalue⟩
  · rintro ⟨number, hspells, haccepts, hvalue⟩
    obtain ⟨word, rfl⟩ := exists_toInt_eq_iff.mpr ⟨haccepts.low, haccepts.high⟩
    exact ⟨word, Decimal.readWord?_eq_some_iff.mpr hspells, ofRaw?_eq_some_iff.mpr hvalue⟩

theorem exists_decode_eq_ok_iff : (∃ value, codec.decode text = .ok value) ↔
    ∃ number, Decimal.Spells (Text.trim text.toList) number ∧ codec.Accepts number := by
  constructor
  · rintro ⟨value, hvalue⟩
    obtain ⟨number, hspells, haccepts, -⟩ := decode_eq_ok_iff.mp hvalue
    exact ⟨number, hspells, haccepts⟩
  · rintro ⟨number, hspells, haccepts⟩
    obtain ⟨value, hvalue⟩ :=
      (exists_toInt_eq_meaning haccepts.low haccepts.high).mpr haccepts
    exact ⟨value, decode_eq_ok_iff.mpr ⟨number, hspells, haccepts, hvalue⟩⟩

/-- An error names what is left of the text, whatever is wrong with it. -/
theorem text_of_decode_eq_error {malformed : Malformed}
    (herror : codec.decode text = .error malformed) :
    malformed.text.toList = Text.trim text.toList := by
  unfold decode at herror
  dsimp only at herror
  split at herror
  · cases herror
  · rw [← Except.error.inj herror, String.toList_ofList]

/-! ## Writing what was read -/

section Linear

variable {factor : Int64}

theorem divisor_linear (hfactor : 1 ≤ factor) : (linear factor).divisor = factor.toInt :=
  Int.max_eq_left (Int64.le_iff_toInt_le.mp hfactor)

theorem meaning_mul_factor (hfactor : 1 ≤ factor) (number : Int) :
    (linear factor).meaning number * factor.toInt = number - number.tmod factor.toInt := by
  show number.tdiv (linear factor).divisor * factor.toInt = _
  rw [divisor_linear hfactor, tdiv_mul_eq_sub_tmod]

theorem encode_linear_of_within (hlow : Int64.minValue.toInt ≤ value.toInt * factor.toInt)
    (hhigh : value.toInt * factor.toInt ≤ Int64.maxValue.toInt) :
    (linear factor).encode value = Decimal.text (value.toInt * factor.toInt) := by
  show Decimal.text (Int64.ofIntClamp (value.toInt * factor.toInt)).toInt = _
  rw [Int64.toInt_ofIntClamp hlow hhigh]

end Linear

/-- **What is read, and what is written for it.**  Take any codec and any text, and what is left of
the text when the blanks at its ends are gone.  A value is read just if this is digits with no sign
or one, and the number they spell has 64 bits and is not the one without a magnitude where a
magnitude is read.  Otherwise the error holds exactly what is left.  The value is what the number
means to the codec among all whole numbers, and the divisor is never zero or below.  With a factor
of at least one, the value can be written again without a product beyond the limits.  Then the node
gets the number less its remainder, which is the number itself if the factor divides it. -/
theorem decode_exact (codec : Codec) (text : String) :
    1 ≤ codec.divisor ∧
    ∃ core, (∀ other, Text.Stripped other text.toList ↔ other = core) ∧
      ((∃ value, codec.decode text = .ok value) ↔
        ∃ number, Decimal.Spells core number ∧ codec.Accepts number) ∧
      (∀ malformed, codec.decode text = .error malformed → malformed.text.toList = core) ∧
      ∀ value, codec.decode text = .ok value → ∀ number, Decimal.Spells core number →
        value.toInt = codec.meaning number ∧
        ∀ factor, codec = .linear factor → 1 ≤ factor →
          (Int64.minValue.toInt ≤ value.toInt * factor.toInt ∧
            value.toInt * factor.toInt ≤ Int64.maxValue.toInt) ∧
          codec.encode value = Decimal.text (number - number.tmod factor.toInt) ∧
          (factor.toInt ∣ number → codec.encode value = Decimal.text number) := by
  refine ⟨codec.one_le_divisor, Text.trim text.toList, fun _ => Text.stripped_iff,
    exists_decode_eq_ok_iff, fun _ => text_of_decode_eq_error, ?_⟩
  intro value hvalue number hspells
  obtain ⟨other, hother, haccepts, hmeaning⟩ := decode_eq_ok_iff.mp hvalue
  -- Only one number is spelled.
  obtain rfl : other = number := Option.some.inj
    ((Decimal.read?_eq_some_iff.mpr hother).symm.trans (Decimal.read?_eq_some_iff.mpr hspells))
  refine ⟨hmeaning, ?_⟩
  rintro factor rfl hfactor
  have hkeeps : (linear factor).Keeps value := by
    refine keeps_of_decode ?_ hvalue
    rintro _ ⟨⟩
    exact hfactor
  have hwithin := (keeps_linear hfactor).mp hkeeps
  have hencode : (linear factor).encode value =
      Decimal.text (other - other.tmod factor.toInt) := calc
    (linear factor).encode value = Decimal.text (value.toInt * factor.toInt) :=
      encode_linear_of_within hwithin.1 hwithin.2
    _ = Decimal.text ((linear factor).meaning other * factor.toInt) := by rw [hmeaning]
    _ = Decimal.text (other - other.tmod factor.toInt) := by rw [meaning_mul_factor hfactor]
  refine ⟨hwithin, hencode, fun hdivides => ?_⟩
  rw [hencode, Int.tmod_eq_zero_of_dvd hdivides, Int.sub_zero]

-- The least number is read by every codec but one, and a factor below one leaves it as it is.
example : signedOffset.decode " -9223372036854775808\n" = .error ⟨"-9223372036854775808"⟩ ∧
    (linear (-1)).decode " -9223372036854775808\n" = .ok Int64.minValue ∧
    (linear 3).decode "-0017" = .ok (-5) ∧ (linear 3).encode (-5) = "-15" := by
  decide +kernel

end Codec

end KernelControls
