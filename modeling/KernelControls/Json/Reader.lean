import KernelControls.Json.Basic
import KernelControls.Text.Hexadecimal

/-!
# Reading JSON

`Json.read?` reads one JSON document and refuses everything else: trailing commas,
comments, control characters in texts, half a surrogate pair, numbers with a leading
zero, and lists or records nested more than 127 deep.

## Strategy

A reader takes the characters that are left and gives a value and the rest.  Nesting is
bounded by a budget that each list and record spends, and the items of one list are read
by a loop whose fuel is the number of characters left, since every item takes at least
one.  Texts are read as code units first, so that surrogate pairs are joined in one place.
-/

namespace KernelControls.Json

/-- Drop the blanks that may stand between tokens. -/
def skipBlanks (characters : List Char) : List Char :=
  characters.dropWhile fun character =>
    character == ' ' || character == '\t' || character == '\n' || character == '\r'

/-! ## Texts -/

/-- The character that a backslash and a letter stand for. -/
def escaped? : Char → Option Char
  | '"' => some '"'
  | '\\' => some '\\'
  | '/' => some '/'
  | 'b' => some '\x08'
  | 'f' => some '\x0c'
  | 'n' => some '\n'
  | 'r' => some '\r'
  | 't' => some '\t'
  | _ => none

/-- Read the code units of a text up to its closing quote. -/
def readUnits : List Char → Option (List Nat × List Char)
  | '"' :: rest => some ([], rest)
  | '\\' :: 'u' :: first :: second :: third :: fourth :: rest => do
    let unit ← Hexadecimal.number? [first, second, third, fourth]
    let (units, rest) ← readUnits rest
    some (unit :: units, rest)
  | '\\' :: letter :: rest => do
    let character ← escaped? letter
    let (units, rest) ← readUnits rest
    some (character.toNat :: units, rest)
  | character :: rest =>
    if character.toNat < 0x20 then none
    else do
      let (units, rest) ← readUnits rest
      some (character.toNat :: units, rest)
  | [] => none

/-- Join surrogate pairs; half a pair is no text. -/
def joinUnits : List Nat → Option (List Char)
  | high :: low :: rest =>
    if 0xD800 ≤ high && high ≤ 0xDBFF then
      if 0xDC00 ≤ low && low ≤ 0xDFFF then
        (joinUnits rest).map
          (Char.ofNat (0x10000 + (high - 0xD800) * 0x400 + (low - 0xDC00)) :: ·)
      else none
    else if 0xDC00 ≤ high && high ≤ 0xDFFF then none
    else (joinUnits (low :: rest)).map (Char.ofNat high :: ·)
  | [unit] => if 0xD800 ≤ unit && unit ≤ 0xDFFF then none else some [Char.ofNat unit]
  | [] => some []

/-- Read a text after its opening quote. -/
def readText (characters : List Char) : Option (String × List Char) := do
  let (units, rest) ← readUnits characters
  let text ← joinUnits units
  some (String.ofList text, rest)

/-! ## Numbers

A number without point and exponent whose digits fit a 64-bit word is whole, except for
a negative zero.  Any other number is a fraction: its digits up to the limit of a word,
multiplied or divided by a power of ten, each step rounded. -/

/-- The largest significand that is collected digit by digit. -/
def significandLimit : Nat := Nat.pow 2 64 - 1

/-- Collect the digits before the point: the significand, and how many digits no longer
fitted. -/
def collectWhole (digits : List Char) : Nat × Nat :=
  digits.foldl (fun (significand, dropped) digit =>
    let next := 10 * significand + (digit.toNat - '0'.toNat)
    if dropped == 0 && next ≤ significandLimit then (next, 0) else (significand, dropped + 1))
    (0, 0)

/-- Collect the digits after the point until one no longer fits: the significand, and how
many digits were collected. -/
def collectFraction (significand : Nat) : List Char → Nat × Nat
  | [] => (significand, 0)
  | digit :: rest =>
    let next := 10 * significand + (digit.toNat - '0'.toNat)
    if next ≤ significandLimit then
      let (collected, places) := collectFraction next rest
      (collected, places + 1)
    else (significand, 0)

/-- Multiply or divide a number by a power of ten, in steps of at most `10 ^ 308`; a result
beyond the format is refused. -/
def scaleByTen : Nat → Number.Binary64 → Int → Option Number.Binary64
  | 0, _, _ => none
  | fuel + 1, number, exponent =>
    if exponent.natAbs ≤ 308 then
      let power := Number.Binary64.ofNat (Nat.pow 10 exponent.natAbs)
      let scaled := if 0 ≤ exponent then number.times power else number.dividedBy power
      match scaled with
      | .infinite _ => none
      | finite => some finite
    else if number.quotient.1 == 0 then some number
    else if 0 ≤ exponent then none
    else
      let step := Number.Binary64.ofNat (Nat.pow 10 308)
      scaleByTen fuel (number.dividedBy step) (exponent + 308)

/-- The fraction with the given sign, significand and power of ten. -/
def fractionOf? (negative : Bool) (significand : Nat) (exponent : Int) : Option Json :=
  (scaleByTen 8 (Number.Binary64.ofNat significand) exponent).map fun number =>
    .fraction (number.withSign negative)

/-- Read the digits of an exponent after its sign. -/
def readExponent (characters : List Char) : Option (Int × List Char) :=
  let readDigits (negative : Bool) (rest : List Char) : Option (Int × List Char) :=
    let digits := rest.takeWhile Char.isDigit
    let number : Int := Nat.ofDigitChars 10 digits 0
    if digits.isEmpty then none
    else some (if negative then -number else number, rest.dropWhile Char.isDigit)
  match characters with
  | '-' :: rest => readDigits true rest
  | '+' :: rest => readDigits false rest
  | rest => readDigits false rest

/-- Read a number after its sign. -/
def readNumber (negative : Bool) (characters : List Char) : Option (Json × List Char) := do
  let digits := characters.takeWhile Char.isDigit
  let rest := characters.dropWhile Char.isDigit
  if digits.isEmpty || (digits.head? == some '0' && digits.length != 1) then none
  let (whole, dropped) := collectWhole digits
  let (significand, places, hasPoint, rest) ←
    match rest with
    | '.' :: rest =>
      let digits := rest.takeWhile Char.isDigit
      if digits.isEmpty then none
      else
        let (significand, places) := collectFraction whole digits
        some (significand, places, true, rest.dropWhile Char.isDigit)
    | rest => some (whole, 0, false, rest)
  let (exponent, hasExponent, rest) ←
    match rest with
    | 'e' :: rest => (readExponent rest).map fun (exponent, rest) => (exponent, true, rest)
    | 'E' :: rest => (readExponent rest).map fun (exponent, rest) => (exponent, true, rest)
    | rest => some (0, false, rest)
  if hasPoint || hasExponent || dropped != 0 then
    let number ← fractionOf? negative significand ((dropped : Int) - places + exponent)
    some (number, rest)
  else if negative then
    if significand == 0 || Nat.pow 2 63 < significand then
      let number ← fractionOf? true significand 0
      some (number, rest)
    else some (.integer (-(significand : Int)), rest)
  else some (.integer significand, rest)

/-! ## Values -/

/-- Strip a fixed word from the front. -/
def expect? : List Char → List Char → Option (List Char)
  | [], characters => some characters
  | _ :: _, [] => none
  | letter :: word, character :: rest => if letter = character then expect? word rest else none

/-- Read a value that holds no other values. -/
def readScalar (characters : List Char) : Option (Json × List Char) :=
  match characters with
  | '"' :: rest => (readText rest).map fun (content, rest) => (.text content, rest)
  | '-' :: rest => readNumber true rest
  | 't' :: rest => (expect? ['r', 'u', 'e'] rest).map fun rest => (.boolean true, rest)
  | 'f' :: rest => (expect? ['a', 'l', 's', 'e'] rest).map fun rest => (.boolean false, rest)
  | 'n' :: rest => (expect? ['u', 'l', 'l'] rest).map fun rest => (.null, rest)
  | rest => readNumber false rest

/-- Read elements separated by commas, one at least, up to the closing character. -/
def readSeparated {Element : Type} (element : List Char → Option (Element × List Char))
    (close : Char) : Nat → List Char → Option (List Element × List Char)
  | 0, _ => none
  | fuel + 1, characters => do
    let (first, rest) ← element (skipBlanks characters)
    match skipBlanks rest with
    | ',' :: rest =>
      let (others, rest) ← readSeparated element close fuel rest
      some (first :: others, rest)
    | character :: rest => if character = close then some ([first], rest) else none
    | [] => none

/-- Read elements separated by commas up to the closing character, maybe none. -/
def readElements {Element : Type} (element : List Char → Option (Element × List Char))
    (close : Char) (characters : List Char) : Option (List Element × List Char) :=
  match skipBlanks characters with
  | [] => none
  | character :: rest =>
    if character = close then some ([], rest)
    else readSeparated element close characters.length (character :: rest)

/-- Read a field of a record with the given reader of values. -/
def readField (value : List Char → Option (Json × List Char)) (characters : List Char) :
    Option ((String × Json) × List Char) :=
  match characters with
  | '"' :: rest => do
    let (name, rest) ← readText rest
    match skipBlanks rest with
    | ':' :: rest =>
      let (content, rest) ← value (skipBlanks rest)
      some ((name, content), rest)
    | _ => none
  | _ => none

/-- Read a value with a budget for nesting. -/
def readValue : Nat → List Char → Option (Json × List Char)
  | 0, characters =>
    match characters with
    | '[' :: _ => none
    | '\x7b' :: _ => none
    | characters => readScalar characters
  | depth + 1, characters =>
    match characters with
    | '[' :: rest =>
      (readElements (readValue depth) ']' rest).map fun (items, rest) => (.list items, rest)
    | '\x7b' :: rest =>
      (readElements (readField (readValue depth)) '\x7d' rest).map fun (fields, rest) =>
        (ofFields fields, rest)
    | characters => readScalar characters

/-- How deep lists and records may be nested. -/
def nestingLimit : Nat := 127

/-- Read one JSON document. -/
def read? (document : String) : Option Json := do
  let (value, rest) ← readValue nestingLimit (skipBlanks document.toList)
  if (skipBlanks rest).isEmpty then some value else none

end KernelControls.Json
