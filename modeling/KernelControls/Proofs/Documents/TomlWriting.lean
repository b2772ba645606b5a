import KernelControls.Toml.Reader

/-!
# Whole numbers are read back

A line of a preference file is a key, an equals sign and a whole number.  A reader of TOML finds
the number again, and stops where the line ends.

## Strategy

A reader is followed character by character, so each lemma says what it does with what was
written in front of anything else.  Numbers end at the line end, which is no digit and no
underscore; for the same reason none of them begins a date or a time.
-/

namespace KernelControls.Toml

/-! ## Digits -/

/-- Only zero is written with a zero in front. -/
theorem eq_zero_of_toDigits_eq_cons {number : Nat} {rest : List Char}
    (hdigits : Nat.toDigits 10 number = '0' :: rest) : number = 0 := by
  induction number using Nat.strongRecOn generalizing rest with
  | ind number ih =>
      rw [Nat.toDigits_eq_if (by decide)] at hdigits
      split at hdigits
      · next hsmall =>
          have hdigit : number.digitChar = '0' := (List.cons.inj hdigits).1
          have hall : ∀ small : Fin 10, small.val.digitChar = '0' → small.val = 0 := by decide
          exact hall ⟨number, hsmall⟩ hdigit
      · next hlarge =>
          cases hhead : Nat.toDigits 10 (number / 10) with
          | nil => exact absurd hhead Nat.toDigits_ne_nil
          | cons first more =>
              rw [hhead, List.cons_append] at hdigits
              have hfirst : first = '0' := (List.cons.inj hdigits).1
              have hzero : number / 10 = 0 := ih (number / 10) (by omega) (hfirst ▸ hhead)
              omega

theorem isDigit_of_mem_toDigits {number : Nat} {digit : Char}
    (hdigit : digit ∈ Nat.toDigits 10 number) : digit.isDigit = true :=
  Nat.isDigit_of_mem_toDigits (by decide) (by decide) hdigit

/-- A number is written with one digit at least, and with digits only. -/
theorem exists_toDigits_eq_cons (number : Nat) : ∃ first more,
    Nat.toDigits 10 number = first :: more ∧ first.isDigit = true ∧
      ∀ digit ∈ more, digit.isDigit = true := by
  cases hdigits : Nat.toDigits 10 number with
  | nil => exact absurd hdigits Nat.toDigits_ne_nil
  | cons first more =>
      have hall : ∀ digit ∈ first :: more, digit.isDigit = true := fun digit hdigit =>
        isDigit_of_mem_toDigits (hdigits ▸ hdigit)
      exact ⟨first, more, rfl, List.forall_mem_cons.mp hall⟩

theorem eq_minus_or_isDigit_of_mem_write {number : Int} {character : Char}
    (hmem : character ∈ Decimal.write number) : character = '-' ∨ character.isDigit = true := by
  unfold Decimal.write at hmem
  split at hmem
  · exact (List.mem_cons.mp hmem).imp_right isDigit_of_mem_toDigits
  · exact .inr (isDigit_of_mem_toDigits hmem)

theorem ne_of_isDigit {character other : Char} (hdigit : character.isDigit = true)
    (hother : other.isDigit = false) : character ≠ other := by
  rintro rfl
  rw [hdigit] at hother
  cases hother

theorem readGroups_append {digits : List Char} (hdigits : ∀ digit ∈ digits, digit.isDigit = true)
    (rest : List Char) :
    readGroups Char.isDigit (digits ++ '\n' :: rest) = some (digits, '\n' :: rest) := by
  induction digits with
  | nil => simp [readGroups]
  | cons digit more ih =>
      have hdigit := hdigits digit List.mem_cons_self
      have hmark : digit ≠ '_' := ne_of_isDigit hdigit (by decide)
      rw [List.cons_append, readGroups.eq_def]
      split
      · next heq => exact absurd (List.cons.inj heq).1 hmark
      · next heq =>
          obtain ⟨rfl, rfl⟩ := List.cons.inj heq
          rw [if_pos hdigit, ih fun other hother => hdigits other (List.mem_cons_of_mem _ hother)]
          rfl
      · next heq => cases heq

theorem readWhole_toDigits (number : Nat) (rest : List Char) :
    readWhole (Nat.toDigits 10 number ++ '\n' :: rest) =
      some (Nat.toDigits 10 number, '\n' :: rest) := by
  obtain ⟨first, more, hdigits, hfirst, hmore⟩ := exists_toDigits_eq_cons number
  rw [hdigits, List.cons_append, readWhole.eq_def]
  split
  · next heq =>
      -- A zero in front is the whole number.
      obtain ⟨rfl, rfl⟩ := List.cons.inj heq
      have hzero := eq_zero_of_toDigits_eq_cons hdigits
      rw [hzero, Nat.toDigits_zero] at hdigits
      rw [← (List.cons.inj hdigits).2]
      rfl
  · unfold readDigits
    simp only
    rw [if_pos hfirst, readGroups_append hmore]
    rfl

/-! ## No number begins a moment -/

/-- A count of digits that is read from a number leaves a digit or the line end in front. -/
theorem readCount_append {count low high : Nat} {digits rest after : List Char} {number : Nat}
    (hread : readCount count low high (digits ++ '\n' :: rest) = some (number, after)) :
    ∃ left, (∀ digit ∈ left, digit ∈ digits) ∧ after = left ++ '\n' :: rest := by
  have htaken : Decimal.readDigits? ((digits ++ '\n' :: rest).take count) ≠ none ∧
      ((digits ++ '\n' :: rest).take count).length = count ∧
      after = (digits ++ '\n' :: rest).drop count := by
    unfold readCount at hread
    simp only at hread
    split at hread
    · cases hread
    · next hlength =>
        cases htaken : Decimal.readDigits? ((digits ++ '\n' :: rest).take count) with
        | none => rw [htaken] at hread; cases hread
        | some value =>
            rw [htaken, Option.bind_eq_bind, Option.bind_some] at hread
            split at hread
            · refine ⟨Option.some_ne_none _, by simpa using hlength, ?_⟩
              exact (Prod.mk.inj (Option.some.inj hread)).2.symm
            · cases hread
  obtain ⟨hdigits, hlength, rfl⟩ := htaken
  -- The line end is no digit, so the count stops before it.
  have hshort : count ≤ digits.length := by
    refine Nat.le_of_not_lt fun hlong => ?_
    have hmem : '\n' ∈ (digits ++ '\n' :: rest).take count := by
      rw [List.take_append]
      refine List.mem_append_right _ ?_
      obtain ⟨extra, hextra⟩ : ∃ extra, count - digits.length = extra + 1 :=
        ⟨count - digits.length - 1, by omega⟩
      rw [hextra, List.take_succ_cons]
      exact List.mem_cons_self
    refine hdigits ?_
    unfold Decimal.readDigits?
    rw [if_pos]
    rw [Bool.or_eq_true, Bool.not_eq_true', List.all_eq_false]
    exact .inr ⟨'\n', hmem, by decide⟩
  exact ⟨digits.drop count, fun digit hdigit => List.mem_of_mem_drop hdigit,
    List.drop_append_of_le_length hshort⟩

theorem readMark_append {mark : Char} (hmark : mark.isDigit = false) (hline : mark ≠ '\n')
    {left : List Char} (hleft : ∀ digit ∈ left, digit.isDigit = true) (rest : List Char) :
    readMark mark (left ++ '\n' :: rest) = none := by
  cases left with
  | nil => exact if_neg (Ne.symm hline)
  | cons digit more => exact if_neg (ne_of_isDigit (hleft digit List.mem_cons_self) hmark)

theorem readMoment_toDigits (number : Nat) (rest : List Char) :
    readMoment (Nat.toDigits 10 number ++ '\n' :: rest) = none := by
  have hmark : ∀ mark : Char, mark.isDigit = false → mark ≠ '\n' →
      ∀ {count low high value after},
        readCount count low high (Nat.toDigits 10 number ++ '\n' :: rest) = some (value, after) →
        readMark mark after = none := by
    intro mark hmark hline count low high value after hread
    obtain ⟨left, hleft, rfl⟩ := readCount_append hread
    have hdigits : ∀ digit ∈ left, digit.isDigit = true := fun digit hdigit =>
      isDigit_of_mem_toDigits (hleft digit hdigit)
    exact readMark_append hmark hline hdigits rest
  have hdate : readDate (Nat.toDigits 10 number ++ '\n' :: rest) = none := by
    unfold readDate
    cases hread : readCount 4 0 9999 (Nat.toDigits 10 number ++ '\n' :: rest) with
    | none => rfl
    | some read =>
        have hnone := hmark '-' (by decide) (by decide) hread
        simp only [Option.bind_eq_bind, Option.bind_some, hnone, Option.bind_none]
  have htime : readTime 23 (Nat.toDigits 10 number ++ '\n' :: rest) = none := by
    unfold readTime
    cases hread : readCount 2 0 23 (Nat.toDigits 10 number ++ '\n' :: rest) with
    | none => rfl
    | some read =>
        have hnone := hmark ':' (by decide) (by decide) hread
        simp only [Option.bind_eq_bind, Option.bind_some, hnone, Option.bind_none]
  unfold readMoment
  rw [hdate, htime]
  rfl

theorem readMoment_minus (rest : List Char) : readMoment ('-' :: rest) = none := by
  have hcount : ∀ count low high, readCount (count + 1) low high ('-' :: rest) = none := by
    intro count low high
    have hnone : Decimal.readDigits? ('-' :: rest.take count) = none := by
      simp [Decimal.readDigits?]
    unfold readCount
    simp only [List.take_succ_cons, hnone]
    exact ite_self _
  have hdate : readDate ('-' :: rest) = none := by
    unfold readDate
    rw [hcount 3]
    rfl
  have htime : readTime 23 ('-' :: rest) = none := by
    unfold readTime
    rw [hcount 1]
    rfl
  unfold readMoment
  rw [hdate, htime]
  rfl

/-! ## Whole numbers -/

/-- A number that is written after its sign is read as the whole number that it stands for. -/
theorem readDecimal_toDigits (negative : Bool) {number : Nat} {value : Int64}
    (hvalue : value.toInt = if negative then -(number : Int) else number) (rest : List Char) :
    readDecimal negative (Nat.toDigits 10 number ++ '\n' :: rest) =
      some (.integer value, '\n' :: rest) := by
  have hword : Decimal.toWord? (if negative then -(number : Int) else number) = some value := by
    rw [← hvalue]
    exact Decimal.toWord?_toInt value
  have hwhole := readWhole_toDigits number rest
  obtain ⟨first, more, hdigits, hfirst, -⟩ := exists_toDigits_eq_cons number
  rw [hdigits, List.cons_append] at hwhole ⊢
  unfold readDecimal
  split
  · next heq => exact absurd (List.cons.inj heq).1 (ne_of_isDigit hfirst (by decide))
  · next heq => exact absurd (List.cons.inj heq).1 (ne_of_isDigit hfirst (by decide))
  · have hnumber : Nat.ofDigitChars 10 (first :: more) 0 = number := by
      rw [← hdigits]
      exact Nat.ofDigitChars_ten_toDigits
    simp only [hwhole, Option.bind_eq_bind, Option.bind_some, hnumber, hword]
    rfl

/-- A number that starts with a digit has no other base. -/
theorem readNumber_toDigits {number : Nat} {value : Int64} (hvalue : value.toInt = number)
    (rest : List Char) : readNumber (Nat.toDigits 10 number ++ '\n' :: rest) =
      some (.integer value, '\n' :: rest) := by
  rw [← readDecimal_toDigits false hvalue rest]
  obtain ⟨first, more, hdigits, hfirst, hmore⟩ := exists_toDigits_eq_cons number
  -- Behind the first digit stands another one or the end of the line, and no letter of a base.
  have hsecond : ∀ other after, other.isDigit = false → other ≠ '\n' →
      more ++ '\n' :: rest ≠ other :: after := by
    intro other after hother hline heq
    cases more with
    | nil => exact hline (List.cons.inj heq).1.symm
    | cons second last =>
        have hdigit := hmore second List.mem_cons_self
        exact ne_of_isDigit hdigit hother (List.cons.inj heq).1
  rw [hdigits, List.cons_append]
  unfold readNumber
  split
  · next heq => exact absurd (List.cons.inj heq).1 (ne_of_isDigit hfirst (by decide))
  · next heq => exact absurd (List.cons.inj heq).1 (ne_of_isDigit hfirst (by decide))
  · next heq => exact absurd (List.cons.inj heq).2 (hsecond _ _ (by decide) (by decide))
  · next heq => exact absurd (List.cons.inj heq).2 (hsecond _ _ (by decide) (by decide))
  · next heq => exact absurd (List.cons.inj heq).2 (hsecond _ _ (by decide) (by decide))
  · rfl

/-- A value that starts like a number is read as a number or a moment. -/
theorem readValue_of_head {first : Char} (hfirst : first = '-' ∨ first.isDigit = true)
    (depth : Nat) (rest : List Char) :
    readValue (depth + 1) (first :: rest) = readQuantity (first :: rest) := by
  have hother : ∀ other : Char, other ≠ '-' → other.isDigit = false → first ≠ other := by
    intro other hminus hdigit
    rcases hfirst with rfl | hfirst
    · exact Ne.symm hminus
    · exact ne_of_isDigit hfirst hdigit
  unfold readValue
  split
  · next heq => exact absurd (List.cons.inj heq).1 (hother _ (by decide) (by decide))
  · next heq => exact absurd (List.cons.inj heq).1 (hother _ (by decide) (by decide))
  · unfold readScalar
    split
    · next heq => exact absurd (List.cons.inj heq).1 (hother _ (by decide) (by decide))
    · next heq => exact absurd (List.cons.inj heq).1 (hother _ (by decide) (by decide))
    · next heq => exact absurd (List.cons.inj heq).1 (hother _ (by decide) (by decide))
    · next heq => exact absurd (List.cons.inj heq).1 (hother _ (by decide) (by decide))
    · rfl

theorem readValue_write (value : Int64) (depth : Nat) (rest : List Char) :
    readValue (depth + 1) (Decimal.write value.toInt ++ '\n' :: rest) =
      some (.integer value, '\n' :: rest) := by
  unfold Decimal.write
  split
  · next hnegative =>
      have hvalue : value.toInt =
          if true then -(value.toInt.natAbs : Int) else value.toInt.natAbs := by
        rw [if_pos rfl]
        omega
      rw [List.cons_append, readValue_of_head (.inl rfl)]
      unfold readQuantity
      rw [readMoment_minus]
      exact readDecimal_toDigits true hvalue rest
  · next hpositive =>
      have hvalue : value.toInt = (value.toInt.natAbs : Int) := by omega
      have hnumber := readNumber_toDigits hvalue rest
      have hmoment := readMoment_toDigits value.toInt.natAbs rest
      obtain ⟨first, more, hdigits, hfirst, -⟩ := exists_toDigits_eq_cons value.toInt.natAbs
      rw [hdigits, List.cons_append] at hnumber hmoment ⊢
      rw [readValue_of_head (.inr hfirst)]
      unfold readQuantity
      rw [hmoment]
      exact hnumber

theorem skipBlanks_write (value : Int64) (rest : List Char) :
    skipBlanks (' ' :: (Decimal.write value.toInt ++ '\n' :: rest)) =
      Decimal.write value.toInt ++ '\n' :: rest := by
  have hhead : ∀ characters : List Char, (∀ first ∈ characters.head?, isBlank first = false) →
      skipBlanks (' ' :: characters) = characters := by
    intro characters hfirst
    cases characters with
    | nil => rfl
    | cons first more =>
        show (first :: more).dropWhile isBlank = first :: more
        exact List.dropWhile_cons_of_neg (by simp [hfirst first rfl])
  refine hhead _ fun first hfirst => ?_
  unfold Decimal.write at hfirst
  split at hfirst
  · obtain rfl : '-' = first := by simpa using hfirst
    rfl
  · obtain ⟨digit, more, hdigits, hdigit, -⟩ := exists_toDigits_eq_cons value.toInt.natAbs
    rw [hdigits] at hfirst
    obtain rfl : digit = first := by simpa using hfirst
    have hspace : digit ≠ ' ' := ne_of_isDigit hdigit (by decide)
    have htab : digit ≠ '\t' := ne_of_isDigit hdigit (by decide)
    simp [isBlank, hspace, htab]

end KernelControls.Toml
