import KernelControls.Proofs.Families.Catalogs
import KernelControls.Proofs.Documents.TomlWriting

/-!
# What a codec gives back

A value that is written to a node and read again is the same value, if the codec kept it.  Two
things can be lost.  The product of a linear codec is clamped to the limits of a 64-bit number,
and what is clamped cannot be divided back.  An offset is read as a magnitude, so a negative one
loses its sign.

## Strategy

The number on a node is read back from its text exactly (`decode_encode`), so a codec is lossless
at a value just if `ofRaw?` undoes `raw` there.  For the linear codec this is arithmetic: the
quotient of a number has at most the magnitude of the number, and clamping made the magnitude of
the product smaller.  `Keeps` names the values at which nothing is lost.  It holds between any two
values where it holds, so a whole range is lossless as soon as its two ends are.
-/

namespace KernelControls

/-! ## Written numbers have no blanks -/

namespace Text

theorem dropWhile_isBlank_eq_self {characters : List Char}
    (hblank : ∀ character ∈ characters, isBlank character = false) :
    characters.dropWhile isBlank = characters := by
  cases characters with
  | nil => rfl
  | cons first rest => rw [List.dropWhile_cons_of_neg (by simp [hblank first List.mem_cons_self])]

theorem trim_eq_self {characters : List Char}
    (hblank : ∀ character ∈ characters, isBlank character = false) :
    trim characters = characters := by
  have hreverse : ∀ character ∈ characters.reverse, isBlank character = false :=
    fun character hmem => hblank character (List.mem_reverse.mp hmem)
  rw [trim, dropWhile_isBlank_eq_self hblank, dropWhile_isBlank_eq_self hreverse,
    List.reverse_reverse]

theorem isBlank_eq_false_of_isDigit {character : Char} (hdigit : character.isDigit = true) :
    isBlank character = false := by
  obtain ⟨hlow, hhigh⟩ : 48 ≤ character.toNat ∧ character.toNat ≤ 57 := by
    simpa [Char.isDigit, UInt32.le_iff_toNat_le] using hdigit
  unfold isBlank inRanges
  rw [List.any_eq_false]
  -- No range of the table reaches from above `9` down to a digit or from below `0` up to one.
  have htable : ∀ range ∈ blankRanges, range.2 < 48 ∨ 57 < range.1 := by decide
  intro range hrange
  rcases htable range hrange with habove | hbelow
  · simp only [Bool.and_eq_true, decide_eq_true_eq]
    omega
  · simp only [Bool.and_eq_true, decide_eq_true_eq]
    omega

theorem isBlank_eq_false_of_mem_write {number : Int} :
    ∀ character ∈ Decimal.write number, isBlank character = false := by
  intro character hmem
  rcases Toml.eq_minus_or_isDigit_of_mem_write hmem with rfl | hdigit
  · decide
  · exact isBlank_eq_false_of_isDigit hdigit

theorem trim_write (number : Int) : trim (Decimal.write number) = Decimal.write number :=
  trim_eq_self isBlank_eq_false_of_mem_write

end Text

/-! ## Clamping -/

section Clamping

variable (number : Int)

theorem toInt_ofIntClamp_eq : (Int64.ofIntClamp number).toInt =
    max Int64.minValue.toInt (min number Int64.maxValue.toInt) := by
  have hmin := Int64.toInt_minValue
  have hmax := Int64.toInt_maxValue
  unfold Int64.ofIntClamp
  split
  · split
    · rw [Int64.toInt_ofIntLE]
      omega
    · omega
  · omega

theorem nonneg_ofIntClamp : 0 ≤ (Int64.ofIntClamp number).toInt ↔ 0 ≤ number := by
  rw [toInt_ofIntClamp_eq, Int64.toInt_minValue, Int64.toInt_maxValue]
  omega

theorem nonpos_ofIntClamp : (Int64.ofIntClamp number).toInt ≤ 0 ↔ number ≤ 0 := by
  rw [toInt_ofIntClamp_eq, Int64.toInt_minValue, Int64.toInt_maxValue]
  omega

/-- What is beyond the limits of a 64-bit number loses magnitude when it is clamped. -/
theorem natAbs_ofIntClamp_lt
    (hbeyond : ¬(Int64.minValue.toInt ≤ number ∧ number ≤ Int64.maxValue.toInt)) :
    (Int64.ofIntClamp number).toInt.natAbs < number.natAbs := by
  have hmin := Int64.toInt_minValue
  have hmax := Int64.toInt_maxValue
  rw [toInt_ofIntClamp_eq]
  omega

end Clamping

namespace Codec

/-! ## The values that are kept -/

/-- A value at which a codec loses nothing.  A linear codec keeps a value whose product has 64
bits; a factor below one is not divided by, so it keeps zero only. -/
def Keeps : Codec → Int64 → Prop
  | identity, _ => True
  | signedOffset, value => 0 ≤ value
  | linear factor, value =>
    if 1 ≤ factor then
      Int64.minValue.toInt ≤ value.toInt * factor.toInt ∧
        value.toInt * factor.toInt ≤ Int64.maxValue.toInt
    else value = 0

instance : (codec : Codec) → (value : Int64) → Decidable (codec.Keeps value)
  | identity, _ => inferInstanceAs (Decidable True)
  | signedOffset, value => inferInstanceAs (Decidable (0 ≤ value))
  | linear factor, value => inferInstanceAs (Decidable (if 1 ≤ factor then _ else value = 0))

theorem keeps_linear {factor value : Int64} (hfactor : 1 ≤ factor) :
    (linear factor).Keeps value ↔
      Int64.minValue.toInt ≤ value.toInt * factor.toInt ∧
        value.toInt * factor.toInt ≤ Int64.maxValue.toInt :=
  iff_of_eq (if_pos hfactor)

theorem keeps_linear_of_not_le {factor value : Int64} (hfactor : ¬1 ≤ factor) :
    (linear factor).Keeps value ↔ value = 0 :=
  iff_of_eq (if_neg hfactor)

/-- What is written is read back, as far as the codec can tell from the number. -/
theorem decode_encode (codec : Codec) (value : Int64) :
    codec.decode (codec.encode value) =
      match codec.ofRaw? (codec.raw value) with
      | some back => .ok back
      | none => .error ⟨codec.encode value⟩ := by
  have htrim : Text.trim (codec.encode value).toList = Decimal.write (codec.raw value).toInt := by
    rw [encode, Decimal.text, String.toList_ofList, Text.trim_write]
  unfold decode
  simp only [htrim, Decimal.readWord?_write, Option.bind_some]
  rfl

theorem ofRaw?_raw_signedOffset (value : Int64) :
    signedOffset.ofRaw? (signedOffset.raw value) = some value ↔ 0 ≤ value := by
  rw [Int64.le_iff_toInt_le]
  constructor
  · intro hback
    have hmagnitude : value.toInt = (value.toInt.natAbs : Int) := Decimal.toInt_of_toWord? hback
    have hzero : (0 : Int64).toInt = 0 := rfl
    omega
  · intro hnonneg
    show Decimal.toWord? (value.toInt.natAbs : Int) = some value
    rw [Int.natAbs_of_nonneg hnonneg, Decimal.toWord?_toInt]

section Linear

variable {factor : Int64}

/-- The quotient of the number on a node, times the factor, has at most its magnitude. -/
theorem natAbs_tdiv_mul_le (number divisor : Int) :
    (number.tdiv divisor * divisor).natAbs ≤ number.natAbs := by
  rw [Int.natAbs_mul, Int.natAbs_tdiv]
  exact Nat.div_mul_le_self _ _

theorem ofRaw?_raw_linear (hfactor : 1 ≤ factor.toInt) (value : Int64) :
    (linear factor).ofRaw? ((linear factor).raw value) = some value ↔
      Int64.minValue.toInt ≤ value.toInt * factor.toInt ∧
        value.toInt * factor.toInt ≤ Int64.maxValue.toInt := by
  have hdivisor : max factor.toInt 1 = factor.toInt := Int.max_eq_left hfactor
  show Decimal.toWord? ((Int64.ofIntClamp (value.toInt * factor.toInt)).toInt.tdiv
    (max factor.toInt 1)) = some value ↔ _
  rw [hdivisor]
  constructor
  · intro hback
    -- A clamped product has lost magnitude, and dividing does not bring it back.
    by_contra hbeyond
    have hquotient := Decimal.toInt_of_toWord? hback
    have hshrinks := natAbs_ofIntClamp_lt _ hbeyond
    have hlarge := natAbs_tdiv_mul_le
      (Int64.ofIntClamp (value.toInt * factor.toInt)).toInt factor.toInt
    rw [← hquotient] at hlarge
    exact absurd hlarge (Nat.not_le.mpr hshrinks)
  · rintro ⟨hlow, hhigh⟩
    rw [Int64.toInt_ofIntClamp hlow hhigh, Int.mul_tdiv_cancel _ (by omega),
      Decimal.toWord?_toInt]

/-- A factor below one turns the sign of a value around, or makes it zero. -/
theorem ofRaw?_raw_linear_of_lt (hfactor : factor.toInt < 1) (value : Int64) :
    (linear factor).ofRaw? ((linear factor).raw value) = some value ↔ value = 0 := by
  have hdivisor : max factor.toInt 1 = 1 := Int.max_eq_right (by omega)
  have hzero : (0 : Int64).toInt = 0 := rfl
  show Decimal.toWord? ((Int64.ofIntClamp (value.toInt * factor.toInt)).toInt.tdiv
    (max factor.toInt 1)) = some value ↔ _
  rw [hdivisor, Int.tdiv_one, Decimal.toWord?_toInt, Option.some_inj]
  constructor
  · intro hback
    have hnonneg := nonneg_ofIntClamp (value.toInt * factor.toInt)
    have hnonpos := nonpos_ofIntClamp (value.toInt * factor.toInt)
    rw [hback] at hnonneg hnonpos
    rw [← Int64.toInt_inj, hzero]
    -- The product, clamped or not, has the sign that the value has not.
    rcases Int.lt_trichotomy value.toInt 0 with hnegative | hvalue | hpositive
    · have hproduct : 0 ≤ value.toInt * factor.toInt :=
        Int.mul_nonneg_of_nonpos_of_nonpos (by omega) (by omega)
      omega
    · exact hvalue
    · have hproduct : value.toInt * factor.toInt ≤ 0 :=
        Int.mul_nonpos_of_nonneg_of_nonpos (by omega) (by omega)
      omega
  · rintro rfl
    rw [hzero, Int.zero_mul]
    rfl

end Linear

theorem ofRaw?_raw_eq_some_iff (codec : Codec) (value : Int64) :
    codec.ofRaw? (codec.raw value) = some value ↔ codec.Keeps value := by
  cases codec with
  | identity => exact iff_of_true rfl trivial
  | signedOffset => exact ofRaw?_raw_signedOffset value
  | linear factor =>
      by_cases hfactor : 1 ≤ factor
      · rw [keeps_linear hfactor]
        exact ofRaw?_raw_linear (Int64.le_iff_toInt_le.mp hfactor) value
      · rw [keeps_linear_of_not_le hfactor]
        have hone : ¬1 ≤ factor.toInt := fun hle => hfactor (Int64.le_iff_toInt_le.mpr hle)
        exact ofRaw?_raw_linear_of_lt (Int.not_le.mp hone) value

theorem decode_encode_eq_ok_iff (codec : Codec) (value : Int64) :
    codec.decode (codec.encode value) = .ok value ↔ codec.Keeps value := by
  rw [← ofRaw?_raw_eq_some_iff, decode_encode]
  cases codec.ofRaw? (codec.raw value) with
  | none => simp
  | some back => simp

/-- **The values that come back.**  For every codec, a linear factor that no family may have
included, a value that is written comes back when it is read just if the codec is the identity, the
value of an offset is not negative, or the product of a linear codec with a factor of at least one
has 64 bits.  A factor below one brings back zero and nothing else. -/
theorem decode_encode_exact (codec : Codec) (value : Int64) :
    codec.decode (codec.encode value) = .ok value ↔
      codec = .identity ∨
      codec = .signedOffset ∧ 0 ≤ value ∨
      (∃ factor, codec = .linear factor ∧ 1 ≤ factor ∧
        Int64.minValue.toInt ≤ value.toInt * factor.toInt ∧
        value.toInt * factor.toInt ≤ Int64.maxValue.toInt) ∨
      ∃ factor, codec = .linear factor ∧ factor ≤ 0 ∧ value = 0 := by
  rw [decode_encode_eq_ok_iff]
  cases codec with
  | identity => simp [Keeps]
  | signedOffset => simp [Keeps]
  | linear factor =>
      have hbelow : factor ≤ 0 ↔ ¬1 ≤ factor := by
        rw [Int64.le_iff_toInt_le, Int64.le_iff_toInt_le, show (0 : Int64).toInt = 0 from rfl,
          show (1 : Int64).toInt = 1 from rfl]
        omega
      by_cases hfactor : 1 ≤ factor
      · simp [keeps_linear hfactor, hbelow, hfactor]
      · simp [keeps_linear_of_not_le hfactor, hbelow, hfactor]

-- The least value is kept by the factor one and lost by the factor minus one.
example : (linear 1).decode ((linear 1).encode Int64.minValue) = .ok Int64.minValue ∧
    (linear (-1)).decode ((linear (-1)).encode Int64.minValue) = .ok Int64.maxValue := by
  decide +kernel

/-- A codec that keeps two values keeps all between them. -/
theorem Keeps.between {codec : Codec} {low value high : Int64} (hlow : codec.Keeps low)
    (hhigh : codec.Keeps high) (habove : low ≤ value) (hbelow : value ≤ high) :
    codec.Keeps value := by
  have hfrom := Int64.le_iff_toInt_le.mp habove
  have hupto := Int64.le_iff_toInt_le.mp hbelow
  cases codec with
  | identity => trivial
  | signedOffset => exact Int64.le_trans hlow habove
  | linear factor =>
      by_cases hfactor : 1 ≤ factor
      · rw [keeps_linear hfactor] at hlow hhigh ⊢
        have hone : 1 ≤ factor.toInt := Int64.le_iff_toInt_le.mp hfactor
        have hnonneg : 0 ≤ factor.toInt := by omega
        exact ⟨Int.le_trans hlow.1 (Int.mul_le_mul_of_nonneg_right hfrom hnonneg),
          Int.le_trans (Int.mul_le_mul_of_nonneg_right hupto hnonneg) hhigh.2⟩
      · rw [keeps_linear_of_not_le hfactor] at hlow hhigh ⊢
        subst hlow hhigh
        exact Int64.le_antisymm hbelow habove

end Codec

/-! ## The controls of a catalog -/

theorem Control.minimum_le_maximum {control : Control} (hnone : control.fault? = none) :
    control.minimum ≤ control.maximum :=
  (control.fault?_eq_none_iff.mp hnone).minimum_le_maximum

namespace Family

variable {family : Family}

theorem fault?_of_validate (hvalid : family.validate = .ok ()) : family.fault? = none := by
  unfold validate at hvalid
  split at hvalid
  · cases hvalid
  · assumption

theorem fault?_of_mem (hnone : family.fault? = none) {control : Control}
    (hcontrol : control ∈ family.controls) : control.fault? = none :=
  control.fault?_eq_none_iff.mpr ((family.fault?_eq_none_iff.mp hnone).wellFormed control hcontrol)

/-- **The controls whose encoding is lossless.**  Take any control of a family that is accepted.
A value of its range comes back from the node just if the codec keeps it: always for the identity,
from zero on for an offset, and for a linear codec where the product has 64 bits.  So the encoding
is lossless over the whole range just if it is at the least and at the greatest value. -/
theorem lossless_iff_at_ends (hvalid : family.validate = .ok ()) {control : Control}
    (hcontrol : control ∈ family.controls) :
    (∀ value, control.contains value = true →
      (control.codec.decode (control.codec.encode value) = .ok value ↔
        control.codec.Keeps value)) ∧
    ((∀ value, control.contains value = true →
        control.codec.decode (control.codec.encode value) = .ok value) ↔
      control.codec.Keeps control.minimum ∧ control.codec.Keeps control.maximum) := by
  have hrange := Control.minimum_le_maximum (fault?_of_mem (fault?_of_validate hvalid) hcontrol)
  have hcontains : ∀ value, control.contains value = true ↔
      control.minimum ≤ value ∧ value ≤ control.maximum := by
    simp [Control.contains]
  refine ⟨fun value _ => control.codec.decode_encode_eq_ok_iff value, ?_⟩
  simp only [Codec.decode_encode_eq_ok_iff, hcontains]
  constructor
  · intro hkept
    exact ⟨hkept _ ⟨Int64.le_refl _, hrange⟩, hkept _ ⟨hrange, Int64.le_refl _⟩⟩
  · rintro ⟨hlow, hhigh⟩ value ⟨habove, hbelow⟩
    exact hlow.between hhigh habove hbelow

theorem lossless_colorTuning :
    colorTuning.validate = .ok () ∧ multiplier "red" ∈ colorTuning.controls ∧
      ∀ value, (multiplier "red").contains value = true →
        (multiplier "red").codec.decode ((multiplier "red").codec.encode value) = .ok value := by
  have hvalid : colorTuning.validate = .ok () := by decide +kernel
  have hcontrol : multiplier "red" ∈ colorTuning.controls := List.mem_cons_self
  exact ⟨hvalid, hcontrol, (lossless_iff_at_ends hvalid hcontrol).2.mpr (by decide)⟩

/-- A family with an offset that may be negative. -/
def balance : Family where
  id := "balance"
  name := "Balance"
  controls :=
    [{ name := "offset"
       path := "/sys/balance"
       codec := .signedOffset
       minimum := -5
       maximum := 5
       default := 0 }]

/-- Not every control that is accepted has a lossless encoding: an offset of minus three is read
as three. -/
theorem lossy_balance : ¬∀ family : Family, family.validate = .ok () →
    ∀ control ∈ family.controls, ∀ value, control.contains value = true →
      control.codec.decode (control.codec.encode value) = .ok value := by
  intro hlossless
  have hback := hlossless balance (by decide +kernel) _ List.mem_cons_self (-3) (by decide)
  exact absurd ((Codec.decode_encode_eq_ok_iff _ _).mp hback) (by decide)

end Family

/-- Every built-in control has a lossless encoding over its whole range. -/
theorem Catalog.lossless_builtin : ∀ family ∈ builtin.families, ∀ control ∈ family.controls,
    ∀ value, control.contains value = true →
      control.codec.decode (control.codec.encode value) = .ok value := by
  have hends : ∀ family ∈ builtin.families, ∀ control ∈ family.controls,
      control.codec.Keeps control.minimum ∧ control.codec.Keeps control.maximum := by
    decide +kernel
  intro family hfamily control hcontrol value hvalue
  obtain ⟨habove, hbelow⟩ : control.minimum ≤ value ∧ value ≤ control.maximum := by
    simpa [Control.contains] using hvalue
  obtain ⟨hlow, hhigh⟩ := hends family hfamily control hcontrol
  exact (Codec.decode_encode_eq_ok_iff _ _).mpr (hlow.between hhigh habove hbelow)

end KernelControls
