import KernelControls.Number.Binary64

/-!
# The shortest decimal that reads back

`Positional.text` writes a number of the 64-bit binary format with the fewest decimal
digits that still identify it, always positionally: no exponent, and no decimal point
where the number is whole.

## Strategy

A decimal identifies a number when it lies in the interval of all rationals that round
to it.  For one digit, two digits and so on, the two neighbours of the value on that
decimal grid are tested; the first grid with a hit wins, and of two hits the nearer, or the
upper if the value lies half way between them.
-/

namespace KernelControls.Number.Positional

/-- The exponent of the leading decimal digit of a positive quotient. -/
def leadingPower (numerator denominator : Nat) : Int :=
  if denominator ≤ numerator then
    ((Nat.toDigits 10 (numerator / denominator)).length : Int) - 1
  else
    let below := (denominator - 1) / numerator
    if below == 0 then 0 else -((Nat.toDigits 10 below).length : Int)

/-- The interval of rationals that round to `significand * 2 ^ exponent`, in quarters of the
unit of the last place: below the value and above it.  Under a power of two the
neighbours stand closer. -/
def quarterBounds (significand : Nat) (exponent : Int) : Nat × Nat :=
  let closer := significand == Nat.pow 2 52 && -1074 < exponent
  (4 * significand - (if closer then 1 else 2), 4 * significand + 2)

/-- Whether `digits * 10 ^ power` rounds to `significand * 2 ^ exponent`; the ends belong to
the interval when the significand is even. -/
def identifies (significand : Nat) (exponent : Int) (digits : Nat) (power : Int) : Bool :=
  let bounds := quarterBounds significand exponent
  -- both sides are multiplied out to whole numbers
  let candidate := digits * Nat.pow 10 power.toNat * 4 * Nat.pow 2 (-exponent).toNat
  let unit := Nat.pow 10 (-power).toNat * Nat.pow 2 exponent.toNat
  let low := bounds.1 * unit
  let high := bounds.2 * unit
  if significand % 2 == 0 then low ≤ candidate && candidate ≤ high
  else low < candidate && candidate < high

/-- The nearest identifying decimal with at most the given number of digits, if there is one. -/
def atLength (significand : Nat) (exponent : Int) (length : Nat) : Option (Nat × Int) :=
  let value := (Binary64.finite false significand exponent).quotient
  let power := leadingPower value.1 value.2 + 1 - (length : Int)
  let numerator := value.1 * Nat.pow 10 (-power).toNat
  let denominator := value.2 * Nat.pow 10 power.toNat
  let below := numerator / denominator
  let isLower := 2 * (numerator % denominator) < denominator
  let nearer := if isLower then below else below + 1
  let farther := if isLower then below + 1 else below
  if identifies significand exponent nearer power then some (nearer, power)
  else if identifies significand exponent farther power then some (farther, power)
  else none

/-- The fewest digits that identify a positive number; seventeen always suffice. -/
def shortest (significand : Nat) (exponent : Int) : Nat × Int :=
  let lengths := (List.range 17).map (· + 1)
  ((lengths.filterMap (atLength significand exponent)).head?).getD (0, 0)

/-- Drop the zeros at the end of the digits, raising the power of ten. -/
def dropZeros : Nat → Nat → Int → Nat × Int
  | 0, digits, power => (digits, power)
  | fuel + 1, digits, power =>
    if digits % 10 == 0 && digits != 0 then dropZeros fuel (digits / 10) (power + 1)
    else (digits, power)

/-- Digits and a power of ten, written positionally. -/
def place (digits : Nat) (power : Int) : List Char :=
  let written := Nat.toDigits 10 digits
  if 0 ≤ power then written ++ List.replicate power.toNat '0'
  else
    let places := (-power).toNat
    let padded := List.replicate (places + 1 - written.length) '0' ++ written
    padded.take (padded.length - places) ++ '.' :: padded.drop (padded.length - places)

/-- The shortest positional text of a number. -/
def text : Binary64 → String
  | .notANumber => "NaN"
  | .infinite negative => if negative then "-inf" else "inf"
  | .finite negative significand exponent =>
    let magnitude :=
      if significand == 0 then ['0']
      else
        let found := shortest significand exponent
        let trimmed := dropZeros 20 found.1 found.2
        place trimmed.1 trimmed.2
    String.ofList (if negative then '-' :: magnitude else magnitude)

example : text (.nearest false 3 2) = "1.5" := by decide +kernel

example : text (.nearest true 0 1) = "-0" := by decide +kernel

example : text (.nearest false 1 10) = "0.1" := by decide +kernel

example : text (.nearest false 4594725049351589 4) = "1148681262337897.3" := by decide +kernel

end KernelControls.Number.Positional
