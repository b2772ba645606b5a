import KernelControls.Family.Values
import Mathlib.Data.List.Forall2
import Mathlib.Data.List.Induction

/-!
# The words that are numbers

A word of a line is a number if it has one optional sign and then ASCII digits, as many as one
likes, and if the number is not beyond the limits of a 64-bit word.  This is the grammar by itself,
and reading keeps to it in both directions: what is read was spelled, and what is spelled is read.

## Strategy

Digits are a number by the place of each of them, so `Digits` grows at its right end and
`readDigits?_eq_some_iff` is an induction from that end.  The signs are three cases, and no word is
in two of them, because a sign is not a digit.  A line is then read word by word.
-/

namespace KernelControls.Decimal

/-! ## The grammar -/

/-- Digits and the number that they stand for: one digit more counts one each, and what stands
before it counts ten times as much. -/
inductive Digits : List Char → Nat → Prop where
  | single {digit : Char} (hdigit : digit.isDigit = true) :
      Digits [digit] (digit.toNat - '0'.toNat)
  | further {before : List Char} {number : Nat} {digit : Char} (hbefore : Digits before number)
      (hdigit : digit.isDigit = true) :
      Digits (before ++ [digit]) (10 * number + (digit.toNat - '0'.toNat))

/-- A word that spells a whole number: digits with no sign or with one. -/
inductive Spells : List Char → Int → Prop where
  | plain {digits : List Char} {number : Nat} (hdigits : Digits digits number) :
      Spells digits number
  | plus {digits : List Char} {number : Nat} (hdigits : Digits digits number) :
      Spells ('+' :: digits) number
  | minus {digits : List Char} {number : Nat} (hdigits : Digits digits number) :
      Spells ('-' :: digits) (-(number : Int))

/-! ## Digits -/

theorem Digits.ne_nil {digits : List Char} {number : Nat} (hdigits : Digits digits number) :
    digits ≠ [] := by
  cases hdigits with
  | single => exact List.cons_ne_nil _ _
  | further => exact List.concat_ne_nil _ _

theorem Digits.isDigit {digits : List Char} {number : Nat} (hdigits : Digits digits number) :
    ∀ digit ∈ digits, digit.isDigit = true := by
  induction hdigits with
  | single hdigit =>
      intro digit hmem
      rw [List.mem_singleton.mp hmem]
      exact hdigit
  | further _ hdigit ih =>
      intro digit hmem
      rcases List.mem_append.mp hmem with hbefore | hlast
      · exact ih digit hbefore
      · rw [List.mem_singleton.mp hlast]
        exact hdigit

theorem Digits.ofDigitChars {digits : List Char} {number : Nat} (hdigits : Digits digits number) :
    Nat.ofDigitChars 10 digits 0 = number := by
  induction hdigits with
  | single hdigit => rw [Nat.ofDigitChars_cons, Nat.ofDigitChars_nil, Nat.mul_zero, Nat.zero_add]
  | further _ hdigit ih =>
      rw [Nat.ofDigitChars_append, ih, Nat.ofDigitChars_cons, Nat.ofDigitChars_nil]

theorem digits_ofDigitChars {digits : List Char} (hsome : digits ≠ [])
    (hall : ∀ digit ∈ digits, digit.isDigit = true) :
    Digits digits (Nat.ofDigitChars 10 digits 0) := by
  induction digits using List.reverseRecOn with
  | nil => exact absurd rfl hsome
  | append_singleton before digit ih =>
      have hdigit : digit.isDigit = true := hall digit (by simp)
      rw [Nat.ofDigitChars_append, Nat.ofDigitChars_cons, Nat.ofDigitChars_nil]
      -- The last digit either stands alone or behind digits that are a number.
      by_cases hfirst : before = []
      · rw [hfirst, Nat.ofDigitChars_nil, Nat.mul_zero, Nat.zero_add]
        exact .single hdigit
      · exact .further (ih hfirst fun other hmem => hall other (List.mem_append_left _ hmem)) hdigit

theorem readDigits?_eq_some_iff {digits : List Char} {number : Nat} :
    readDigits? digits = some number ↔ Digits digits number := by
  unfold readDigits?
  constructor
  · intro hread
    split at hread
    · cases hread
    · next hgood =>
        rw [Bool.or_eq_true, not_or, Bool.not_eq_true', Bool.not_eq_false, List.all_eq_true,
          List.isEmpty_iff] at hgood
        rw [← Option.some.inj hread]
        exact digits_ofDigitChars hgood.1 hgood.2
  · intro hdigits
    have hsome : digits.isEmpty = false := List.isEmpty_eq_false_iff.mpr hdigits.ne_nil
    have hall : digits.all Char.isDigit = true := List.all_eq_true.mpr hdigits.isDigit
    rw [hsome, hall, hdigits.ofDigitChars]
    rfl

/-! ## Signs -/

/-- A word is read as the number that it spells. -/
theorem read?_eq_some_iff {word : List Char} {number : Int} :
    read? word = some number ↔ Spells word number := by
  constructor
  · intro hread
    unfold read? at hread
    split at hread
    all_goals
      obtain ⟨magnitude, hmagnitude, rfl⟩ := Option.map_eq_some_iff.mp hread
      rw [readDigits?_eq_some_iff] at hmagnitude
    · exact .minus hmagnitude
    · exact .plus hmagnitude
    · exact .plain hmagnitude
  · rintro (@⟨digits, magnitude, hdigits⟩ | hdigits | hdigits)
    · -- The first digit is no sign, so the word is read as it stands.
      obtain ⟨first, rest, rfl⟩ := List.exists_cons_of_ne_nil hdigits.ne_nil
      rw [read?_of_isDigit (hdigits.isDigit first List.mem_cons_self),
        readDigits?_eq_some_iff.mpr hdigits]
      rfl
    · rw [read?, readDigits?_eq_some_iff.mpr hdigits]
      rfl
    · rw [read?, readDigits?_eq_some_iff.mpr hdigits]
      rfl

/-! ## Limits -/

theorem toWord?_eq_some_iff {number : Int} {word : Int64} :
    toWord? number = some word ↔ word.toInt = number := by
  constructor
  · exact toInt_of_toWord?
  · rintro rfl
    exact toWord?_toInt word

theorem readWord?_eq_some_iff {word : List Char} {value : Int64} :
    readWord? word = some value ↔ Spells word value.toInt := by
  unfold readWord?
  rw [Option.bind_eq_some_iff, ← read?_eq_some_iff]
  constructor
  · rintro ⟨number, hread, hvalue⟩
    rw [hread, toWord?_eq_some_iff.mp hvalue]
  · intro hread
    exact ⟨value.toInt, hread, toWord?_toInt value⟩

/-- Signs and leading zeros are as one likes, but a number needs a digit, and the first number
beyond the limits is none. -/
example : readWord? "+007".toList = some 7 ∧ readWord? "-0".toList = some 0 ∧
    readWord? "-".toList = none ∧ readWord? "9223372036854775808".toList = none := by
  decide +kernel

end KernelControls.Decimal

namespace KernelControls

/-! ## Lines -/

/-- A line spells values when each of its words spells the value in its place, and there are no
more values than words. -/
def LineSpells (line : String) (values : List Int64) : Prop :=
  List.Forall₂ (fun word value => Decimal.Spells word value.toInt)
    (Text.words line.toList) values

theorem mapM_eq_some_iff {Item Value : Type} {read? : Item → Option Value} {items : List Item}
    {values : List Value} : items.mapM read? = some values ↔
      List.Forall₂ (fun item value => read? item = some value) items values := by
  induction items generalizing values with
  | nil =>
      rw [List.mapM_nil, List.forall₂_nil_left_iff]
      exact Option.some_inj.trans eq_comm
  | cons item rest ih =>
      rw [List.mapM_cons, List.forall₂_cons_left_iff]
      constructor
      · intro hread
        obtain ⟨value, hvalue, hmore⟩ := Option.bind_eq_some_iff.mp hread
        obtain ⟨others, hothers, hsame⟩ := Option.bind_eq_some_iff.mp hmore
        exact ⟨value, others, hvalue, ih.mp hothers, (Option.some.inj hsame).symm⟩
      · rintro ⟨value, others, hvalue, hothers, rfl⟩
        rw [hvalue, ih.mpr hothers]
        rfl

theorem valuesOfLine?_eq_some_iff {line : String} {values : List Int64} :
    valuesOfLine? line = some values ↔ LineSpells line values := by
  unfold valuesOfLine? LineSpells
  simp only [mapM_eq_some_iff, Decimal.readWord?_eq_some_iff]

end KernelControls
