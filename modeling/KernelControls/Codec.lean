import KernelControls.Decimal
import KernelControls.Number.Fixed
import KernelControls.Text.Quoted

/-!
# Codecs between values and node text

A control has a value for people and a number that its kernel node holds.  Three codecs
relate the two: `identity` writes the value as it is; `linear` writes it multiplied by a
factor; `signedOffset` writes it as it is too, but reads a magnitude, because the kernel
echoes such an offset with a minus sign.

## Strategy

Writing clamps a product to the limits of a 64-bit number instead of failing.  Reading
first reads a 64-bit number, whatever the codec, and then interprets it, so the
malformed texts of the three codecs differ only in the one number without a magnitude.
-/

namespace KernelControls

/-- How the value of a control relates to the number in its node. -/
inductive Codec where
  | identity
  | linear (factor : Int64)
  | signedOffset
  deriving DecidableEq, Repr

namespace Codec

/-- A node text that is no value: the text without the blanks around it. -/
structure Malformed where
  text : String
  deriving DecidableEq, Repr

/-- What is said about a malformed text. -/
def Malformed.message (malformed : Malformed) : String :=
  "Malformed control value: " ++ Text.quoted malformed.text

/-! ## Writing -/

/-- The number that the node is given for a value. -/
def raw (codec : Codec) (value : Int64) : Int64 :=
  match codec with
  | linear factor => Int64.ofIntClamp (value.toInt * factor.toInt)
  | identity | signedOffset => value

/-- The text that the node is given for a value. -/
def encode (codec : Codec) (value : Int64) : String :=
  Decimal.text (codec.raw value).toInt

/-! ## Reading -/

/-- The value that a number found in the node stands for.  Division drops the fraction, a
factor below one counts as one, and the least number has no magnitude. -/
def ofRaw? (codec : Codec) (number : Int64) : Option Int64 :=
  match codec with
  | identity => some number
  | linear factor => Decimal.toWord? (number.toInt.tdiv (max factor.toInt 1))
  | signedOffset => Decimal.toWord? number.toInt.natAbs

/-- The value that a node text stands for, with or without blanks around it. -/
def decode (codec : Codec) (text : String) : Except Malformed Int64 :=
  let trimmed := Text.trim text.toList
  match (Decimal.readWord? trimmed).bind codec.ofRaw? with
  | some value => .ok value
  | none => .error ⟨String.ofList trimmed⟩

/-! ## Showing -/

/-- A value as people see it: a linear value as a fraction of the maximum to three places,
an offset with a minus sign, anything else as a number. -/
def display (codec : Codec) (value maximum : Int64) : String :=
  match codec with
  | identity => Decimal.text value.toInt
  | signedOffset => "-" ++ Decimal.text value.toInt
  | linear _ =>
    let part := Number.Binary64.ofNat value.toInt.natAbs
    let whole := Number.Binary64.ofNat (max maximum.toInt 1).toNat
    Number.Fixed.text 3 ((part.dividedBy whole).withSign (decide (value < 0)))

end Codec

end KernelControls
