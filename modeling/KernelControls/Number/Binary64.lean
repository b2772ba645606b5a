/-!
# Numbers of 53 significant bits

Values are shown to people as a fraction of their maximum, and a settings file may
hold fractions.  Both are computed in the common 64-bit binary format.  Here such a
number is a whole significand times a power of two, and every operation is one exact
rational computation followed by one rounding.

## Strategy

`nearest` finds the binade of a quotient of whole numbers, scales the quotient so that
its rounding has 53 bits (fewer where the format ends), and rounds once; a half goes to
the even neighbour.
-/

namespace KernelControls.Number

/-- The whole number nearest to a quotient; a half goes to the even neighbour. -/
def roundQuotient (numerator denominator : Nat) : Nat :=
  let quotient := numerator / denominator
  let remainder := 2 * (numerator % denominator)
  if remainder < denominator || (remainder == denominator && quotient % 2 == 0) then quotient
  else quotient + 1

/-- Divide a quotient by a power of two, upwards or downwards. -/
def scaleDown (numerator denominator : Nat) (exponent : Int) : Nat × Nat :=
  if 0 ≤ exponent then (numerator, denominator * Nat.pow 2 exponent.toNat)
  else (numerator * Nat.pow 2 (-exponent).toNat, denominator)

/-- A number of the 64-bit binary format: `significand * 2 ^ exponent` with a sign, or one
of the values that are no number. -/
inductive Binary64 where
  | finite (negative : Bool) (significand : Nat) (exponent : Int)
  | infinite (negative : Bool)
  | notANumber
  deriving DecidableEq, Repr

namespace Binary64

/-- The power of two at or below a positive quotient. -/
def binade (numerator denominator : Nat) : Int :=
  let guess : Int := (numerator.log2 : Int) - (denominator.log2 : Int)
  let scaled := scaleDown numerator denominator guess
  if scaled.2 ≤ scaled.1 then guess else guess - 1

/-- The number of the format nearest to a quotient. -/
def nearest (negative : Bool) (numerator denominator : Nat) : Binary64 :=
  if numerator == 0 then .finite negative 0 0
  else
    let exponent := max (binade numerator denominator - 52) (-1074)
    let scaled := scaleDown numerator denominator exponent
    let significand := roundQuotient scaled.1 scaled.2
    let carried := significand == Nat.pow 2 53
    let exponent := if carried then exponent + 1 else exponent
    let significand := if carried then Nat.pow 2 52 else significand
    if 971 < exponent then .infinite negative else .finite negative significand exponent

/-- The magnitude of a number as a quotient of whole numbers, zero for what is no number. -/
def quotient : Binary64 → Nat × Nat
  | .finite _ significand exponent =>
    if 0 ≤ exponent then (significand * Nat.pow 2 exponent.toNat, 1)
    else (significand, Nat.pow 2 (-exponent).toNat)
  | _ => (0, 1)

/-- Whether the number carries a minus sign. -/
def isNegative : Binary64 → Bool
  | .finite negative _ _ => negative
  | .infinite negative => negative
  | .notANumber => false

/-- The number of the format nearest to a whole number. -/
def ofNat (number : Nat) : Binary64 :=
  nearest false number 1

/-- The rounded product of two finite numbers' magnitudes. -/
def times (left right : Binary64) : Binary64 :=
  nearest false (left.quotient.1 * right.quotient.1) (left.quotient.2 * right.quotient.2)

/-- The rounded quotient of two finite numbers' magnitudes. -/
def dividedBy (left right : Binary64) : Binary64 :=
  nearest false (left.quotient.1 * right.quotient.2) (left.quotient.2 * right.quotient.1)

/-- The same magnitude under the given sign. -/
def withSign (negative : Bool) : Binary64 → Binary64
  | .finite _ significand exponent => .finite negative significand exponent
  | .infinite _ => .infinite negative
  | .notANumber => .notANumber

end Binary64

end KernelControls.Number
