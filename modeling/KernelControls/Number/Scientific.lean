import KernelControls.Number.Binary64

/-!
# Decimals with an exponent

`Scientific.nearest` gives the 64-bit number nearest to a whole significand times a power
of ten.  The result is exact arithmetic and one rounding, also for exponents that no
computer could write out: a decimal whose leading digit stands beyond the 310th place is
infinite, and one whose leading digit stands below the 330th decimal is zero.
-/

namespace KernelControls.Number.Scientific

/-- The number nearest to `significand * 10 ^ exponent`, with a sign. -/
def nearest (negative : Bool) (significand : Nat) (exponent : Int) : Binary64 :=
  let magnitude : Int := (Nat.toDigits 10 significand).length + exponent
  if significand == 0 || magnitude < -330 then .finite negative 0 0
  else if 310 < magnitude then .infinite negative
  else .nearest negative (significand * Nat.pow 10 exponent.toNat) (Nat.pow 10 (-exponent).toNat)

example : nearest false 25 (-1) = .nearest false 5 2 := by decide +kernel

example : nearest true 1 999999999 = .infinite true := by decide +kernel

end KernelControls.Number.Scientific
