/-!
# Hexadecimal digits

Escapes in documents name characters by hexadecimal numbers.  Both cases of the letters
are read; capitals are written.
-/

namespace KernelControls.Hexadecimal

/-- The value of a hexadecimal digit. -/
def digit? (character : Char) : Option Nat :=
  if character.isDigit then some (character.toNat - '0'.toNat)
  else if 'a' ≤ character && character ≤ 'f' then some (character.toNat - 'a'.toNat + 10)
  else if 'A' ≤ character && character ≤ 'F' then some (character.toNat - 'A'.toNat + 10)
  else none

/-- The number that hexadecimal digits stand for. -/
def number? (digits : List Char) : Option Nat :=
  digits.foldlM (fun number digit => (digit? digit).map (16 * number + ·)) 0

/-- The digit for a value below sixteen. -/
def digit (value : Nat) : Char :=
  if value < 10 then Char.ofNat ('0'.toNat + value) else Char.ofNat ('A'.toNat + value - 10)

/-- A number below `16 ^ 4` in four digits. -/
def fourDigits (number : Nat) : List Char :=
  [digit (number / 4096 % 16), digit (number / 256 % 16), digit (number / 16 % 16),
    digit (number % 16)]

/-- The character of a code point; surrogates and numbers beyond the last are none. -/
def character? (number : Nat) : Option Char :=
  if number.isValidChar then some (Char.ofNat number) else none

/-! ## What is written is read back -/

theorem digit?_digit {value : Nat} (h : value < 16) : digit? (digit value) = some value := by
  have hall : ∀ number : Fin 16, digit? (digit number.val) = some number.val := by decide
  exact hall ⟨value, h⟩

end KernelControls.Hexadecimal
