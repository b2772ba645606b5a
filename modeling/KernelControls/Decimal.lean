import KernelControls.Text.Blank

/-!
# Decimal text of whole numbers

Control values travel as decimal text.  Writing is the plain decimal form with a
minus sign for negative numbers.  Reading accepts one optional sign followed by
ASCII digits, with any number of leading zeros, and nothing else.

## Strategy

The grammar is read in two steps, the sign and the digits, over unbounded integers;
the limits of a 64-bit word are a separate, last step.  So a number beyond the limits
and a text that is no number are told apart only where somebody asks.
-/

namespace KernelControls.Decimal

/-! ## Writing -/

/-- The decimal form of a whole number, as characters. -/
def write (number : Int) : List Char :=
  if number < 0 then '-' :: Nat.toDigits 10 number.natAbs
  else Nat.toDigits 10 number.natAbs

/-- The decimal text of a whole number. -/
def text (number : Int) : String :=
  String.ofList (write number)

/-! ## Reading -/

/-- The number a non-empty string of ASCII digits stands for. -/
def readDigits? (characters : List Char) : Option Nat :=
  if characters.isEmpty || !characters.all Char.isDigit then none
  else some (Nat.ofDigitChars 10 characters 0)

/-- Read one optional sign and then digits. -/
def read? : List Char → Option Int
  | '-' :: digits => (readDigits? digits).map fun (number : Nat) => -(number : Int)
  | '+' :: digits => (readDigits? digits).map fun (number : Nat) => (number : Int)
  | digits => (readDigits? digits).map fun (number : Nat) => (number : Int)

/-- The 64-bit word that holds a whole number, unless it lies beyond the limits. -/
def toWord? (number : Int) : Option Int64 :=
  if h : Int64.minValue.toInt ≤ number ∧ number ≤ Int64.maxValue.toInt then
    some (Int64.ofIntLE number h.1 h.2)
  else none

/-- Read a 64-bit number. -/
def readWord? (characters : List Char) : Option Int64 :=
  (read? characters).bind toWord?

/-! ## What is written is read back -/

@[simp] theorem toWord?_toInt (word : Int64) : toWord? word.toInt = some word := by
  have hbounds : Int64.minValue.toInt ≤ word.toInt ∧ word.toInt ≤ Int64.maxValue.toInt :=
    ⟨Int64.minValue_le_toInt word, Int64.toInt_le word⟩
  unfold toWord?
  rw [dif_pos hbounds]
  exact congrArg some (Int64.toInt_inj.mp Int64.toInt_ofIntLE)

theorem toInt_of_toWord? {number : Int} {word : Int64} (h : toWord? number = some word) :
    word.toInt = number := by
  unfold toWord? at h
  split at h
  · rw [← Option.some.inj h, Int64.toInt_ofIntLE]
  · contradiction

@[simp] theorem readDigits?_toDigits (number : Nat) :
    readDigits? (Nat.toDigits 10 number) = some number := by
  have hdigits : (Nat.toDigits 10 number).all Char.isDigit = true := by
    rw [List.all_eq_true]
    intro character hmember
    exact Nat.isDigit_of_mem_toDigits (by decide) (by decide) hmember
  have hnonempty : (Nat.toDigits 10 number).isEmpty = false := by
    rw [List.isEmpty_eq_false_iff]
    exact Nat.toDigits_ne_nil
  simp [readDigits?, hdigits, hnonempty, Nat.ofDigitChars_toDigits]

/-- A text that starts with a digit is read without a sign. -/
theorem read?_of_isDigit {first : Char} {rest : List Char} (h : first.isDigit = true) :
    read? (first :: rest) =
      (readDigits? (first :: rest)).map fun (number : Nat) => (number : Int) := by
  have hminus : first ≠ '-' := by rintro rfl; exact absurd h (by decide)
  have hplus : first ≠ '+' := by rintro rfl; exact absurd h (by decide)
  unfold read?
  split
  · next heq => exact absurd (List.cons.inj heq).1 hminus
  · next heq => exact absurd (List.cons.inj heq).1 hplus
  · rfl

@[simp] theorem read?_toDigits (number : Nat) :
    read? (Nat.toDigits 10 number) = some (number : Int) := by
  have hwritten := readDigits?_toDigits number
  cases hdigits : Nat.toDigits 10 number with
  | nil => exact absurd hdigits Nat.toDigits_ne_nil
  | cons first rest =>
    have hdigit : first.isDigit = true :=
      Nat.isDigit_of_mem_toDigits (b := 10) (n := number) (by decide) (by decide)
        (by rw [hdigits]; exact List.mem_cons_self)
    rw [read?_of_isDigit hdigit, ← hdigits, hwritten]
    rfl

@[simp] theorem read?_write (number : Int) : read? (write number) = some number := by
  unfold write
  split
  · next hnegative =>
    have hvalue : -((number.natAbs : Nat) : Int) = number := by omega
    simp only [read?, readDigits?_toDigits, Option.map_some, hvalue]
  · next hnonnegative =>
    rw [read?_toDigits]
    exact congrArg some (by omega)

@[simp] theorem readWord?_write (word : Int64) : readWord? (write word.toInt) = some word := by
  simp [readWord?, read?_write, toWord?_toInt]

end KernelControls.Decimal
