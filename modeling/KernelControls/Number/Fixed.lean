import KernelControls.Number.Binary64

/-!
# A fixed number of decimal places

`Fixed.text places number` writes a number of the 64-bit binary format with exactly
the given number of decimals.  The exact binary value is rounded, a half goes to the
even neighbour, and a minus sign stays even where all digits are zero.
-/

namespace KernelControls.Number.Fixed

/-- A count of the last decimal place, written with its decimal point. -/
def point (places count : Nat) : List Char :=
  let digits := Nat.toDigits 10 count
  let padded := List.replicate (places + 1 - digits.length) '0' ++ digits
  let whole := padded.take (padded.length - places)
  if places == 0 then whole else whole ++ '.' :: padded.drop (padded.length - places)

/-- How many units of the last place a number's magnitude rounds to. -/
def units (places : Nat) (number : Binary64) : Nat :=
  roundQuotient (number.quotient.1 * Nat.pow 10 places) number.quotient.2

/-- The number with the given count of decimals. -/
def text (places : Nat) (number : Binary64) : String :=
  let magnitude := point places (units places number)
  String.ofList (if number.isNegative then '-' :: magnitude else magnitude)

example : text 3 (.nearest false 1 2) = "0.500" := by decide +kernel

example : text 3 (.nearest true 1 1000000) = "-0.000" := by decide +kernel

end KernelControls.Number.Fixed
