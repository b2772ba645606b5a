import KernelControls.Decimal
import KernelControls.Number.Scientific
import KernelControls.Text.Hexadecimal
import KernelControls.Toml.Basic

/-!
# Numbers in TOML

A number is whole unless it has a decimal point, an exponent or one of the names `inf` and
`nan`.  Single underscores may separate digits.  Whole numbers must fit a 64-bit word; they
may also be written with base 16, 8 or 2 after `0x`, `0o` and `0b`, without a sign.

## Strategy

`readGroups` reads digits of any base and drops the underscores between them, so the
values are computed from plain digits.
-/

namespace KernelControls.Toml

/-! ## Digits -/

/-- Read the digits after a first one, which single underscores may separate. -/
def readGroups (isDigit : Char → Bool) : List Char → Option (List Char × List Char)
  | '_' :: digit :: rest =>
    if isDigit digit then
      (readGroups isDigit rest).map fun (digits, rest) => (digit :: digits, rest)
    else none
  | character :: rest =>
    if isDigit character then
      (readGroups isDigit rest).map fun (digits, rest) => (character :: digits, rest)
    else if character == '_' then none
    else some ([], character :: rest)
  | [] => some ([], [])

/-- Read digits, one at least. -/
def readDigits (isDigit : Char → Bool) : List Char → Option (List Char × List Char)
  | [] => none
  | first :: rest =>
    if isDigit first then
      (readGroups isDigit rest).map fun (digits, rest) => (first :: digits, rest)
    else none

/-- Read decimal digits of which the first is no zero, or a single zero. -/
def readWhole : List Char → Option (List Char × List Char)
  | '0' :: rest => some (['0'], rest)
  | characters => readDigits Char.isDigit characters

/-! ## Whole numbers -/

/-- A whole number of the given base. -/
def readBased (base : Nat) (characters : List Char) : Option (Toml × List Char) := do
  let isDigit (character : Char) : Bool :=
    match Hexadecimal.digit? character with
    | some value => value < base
    | none => false
  let (digits, rest) ← readDigits isDigit characters
  let number := digits.foldl (fun number digit =>
    base * number + (Hexadecimal.digit? digit).getD 0) 0
  let word ← Decimal.toWord? number
  some (.integer word, rest)

/-! ## Fractions -/

/-- Read an exponent after its letter. -/
def readExponent (characters : List Char) : Option (Int × List Char) :=
  let signed (negative : Bool) (characters : List Char) : Option (Int × List Char) :=
    (readDigits Char.isDigit characters).map fun (digits, rest) =>
      let number : Int := Nat.ofDigitChars 10 digits 0
      (if negative then -number else number, rest)
  match characters with
  | '+' :: rest => signed false rest
  | '-' :: rest => signed true rest
  | rest => signed false rest

/-- The fraction of the given digits; one that is too large to be finite is refused, unless it
is negative. -/
def fraction? (negative : Bool) (whole places : List Char) (exponent : Int) : Option Toml :=
  let significand := Nat.ofDigitChars 10 (whole ++ places) 0
  match Number.Scientific.nearest negative significand (exponent - places.length) with
  | .infinite false => none
  | number => some (.fraction number)

/-- Read the exponent of a fraction, if it has one. -/
def readScaled (negative : Bool) (whole places : List Char) (characters : List Char) :
    Option (Toml × List Char) := do
  let (exponent, rest) ←
    match characters with
    | 'e' :: rest => readExponent rest
    | 'E' :: rest => readExponent rest
    | rest => some (0, rest)
  let number ← fraction? negative whole places exponent
  some (number, rest)

/-! ## Numbers -/

/-- Read a decimal number after its sign. -/
def readDecimal (negative : Bool) (characters : List Char) : Option (Toml × List Char) :=
  match characters with
  | 'i' :: 'n' :: 'f' :: rest => some (.fraction (.infinite negative), rest)
  | 'n' :: 'a' :: 'n' :: rest => some (.fraction .notANumber, rest)
  | characters => do
    let (whole, rest) ← readWhole characters
    match rest with
    | '.' :: rest =>
      let (places, rest) ← readDigits Char.isDigit rest
      readScaled negative whole places rest
    | 'e' :: _ => readScaled negative whole [] rest
    | 'E' :: _ => readScaled negative whole [] rest
    | rest =>
      let magnitude : Int := Nat.ofDigitChars 10 whole 0
      let word ← Decimal.toWord? (if negative then -magnitude else magnitude)
      some (.integer word, rest)

/-- Read a number. -/
def readNumber (characters : List Char) : Option (Toml × List Char) :=
  match characters with
  | '+' :: rest => readDecimal false rest
  | '-' :: rest => readDecimal true rest
  | '0' :: 'x' :: rest => readBased 16 rest
  | '0' :: 'o' :: rest => readBased 8 rest
  | '0' :: 'b' :: rest => readBased 2 rest
  | rest => readDecimal false rest

end KernelControls.Toml
