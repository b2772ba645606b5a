import KernelControls.Pattern.Mode
import KernelControls.Text.Hexadecimal

/-!
# Elements of patterns

An element of a pattern is what one character stands for, or one character after a backslash.
Not every element may stand in every mode: tables about the case or the class of characters
are not at hand, and a pattern about bytes must still match whole characters.
-/

namespace KernelControls.Pattern

/-- What one element of a pattern stands for. -/
inductive Element where
  /-- A character that stands for itself. -/
  | literal (character : Char)
  /-- A byte, given by its number. -/
  | byte (number : Char)
  /-- A class of characters with a letter of its own, or what is not in it. -/
  | letterClass (isNegated : Bool)
  /-- Any character. -/
  | any
  /-- The beginning or the end of a line or of the whole. -/
  | edge
  /-- The beginning or the end of a word, or a place that is neither. -/
  | wordEdge
  deriving DecidableEq, Repr

/-! ## Reading -/

/-- The punctuation that does not stand for itself after a backslash. -/
def isReserved (character : Char) : Bool :=
  character == '<' || character == '>'

/-- Whether a character stands for itself after a backslash: all of ASCII does but letters,
digits and the reserved punctuation. -/
def isEscapable (character : Char) : Bool :=
  character.toNat < 0x80 && !character.isAlphanum && !isReserved character

/-- Read hexadecimal digits, exactly as many as said. -/
def readDigits (mode : Mode) : Nat → List Char → Option (List Char × List Char)
  | 0, characters => some ([], characters)
  | count + 1, characters =>
    match mode.skip characters with
    | [] => none
    | digit :: rest =>
      if (Hexadecimal.digit? digit).isSome then
        (readDigits mode count rest).map fun (digits, rest) => (digit :: digits, rest)
      else none

/-- Read the character with the number that hexadecimal digits give. -/
def readNumbered (mode : Mode) (count : Nat) (characters : List Char) :
    Option (Char × List Char) := do
  let (digits, rest) ← readDigits mode count characters
  let character ← Hexadecimal.character? (← Hexadecimal.number? digits)
  some (character, rest)

/-- Read the element after a backslash. -/
def readEscape (mode : Mode) : List Char → Option (Element × List Char)
  | [] => none
  | 'x' :: rest => (readNumbered mode 2 rest).map fun (number, rest) => (.byte number, rest)
  | 'u' :: rest => (readNumbered mode 4 rest).map fun (number, rest) => (.literal number, rest)
  | 'U' :: rest => (readNumbered mode 8 rest).map fun (number, rest) => (.literal number, rest)
  | letter :: rest =>
    if isEscapable letter then some (.literal letter, rest)
    else
      match letter with
      | 'a' => some (.literal '\x07', rest)
      | 't' => some (.literal '\t', rest)
      | 'n' => some (.literal '\n', rest)
      | 'v' => some (.literal '\x0b', rest)
      | 'f' => some (.literal '\x0c', rest)
      | 'r' => some (.literal '\r', rest)
      | 'd' | 's' | 'w' => some (.letterClass false, rest)
      | 'D' | 'S' | 'W' => some (.letterClass true, rest)
      | 'A' | 'z' => some (.edge, rest)
      | 'b' | 'B' | '<' | '>' => some (.wordEdge, rest)
      | _ => none

/-- Read an element that stands outside of classes. -/
def readElement (mode : Mode) : List Char → Option (Element × List Char)
  | [] => none
  | '\\' :: rest => readEscape mode rest
  | '.' :: rest => some (.any, rest)
  | '^' :: rest => some (.edge, rest)
  | '$' :: rest => some (.edge, rest)
  | character :: rest => some (.literal character, rest)

/-- Read an element that stands in a class. -/
def readMember (mode : Mode) : List Char → Option (Element × List Char)
  | [] => none
  | '\\' :: rest => readEscape mode rest
  | character :: rest => some (.literal character, rest)

/-! ## Where elements may stand -/

namespace Element

/-- The character that an element names. -/
def character? : Element → Option Char
  | literal character => some character
  | byte number => some number
  | _ => none

/-- Whether characters may be told apart by number alone: not if other cases count too. -/
def isExact (mode : Mode) : Bool :=
  !(mode.isUnicode && mode.ignoresCase)

/-- Whether an element may stand outside of classes in a mode. -/
def isAdmitted (mode : Mode) : Element → Bool
  | literal _ => isExact mode
  | byte number => isExact mode && (mode.isUnicode || number.toNat < 0x80)
  | letterClass isNegated => !mode.isUnicode && !isNegated
  | any => mode.isUnicode
  | edge | wordEdge => true

/-- Whether an element may stand in a class in a mode. -/
def isMember (mode : Mode) : Element → Bool
  | literal character | byte character =>
    isExact mode && (mode.isUnicode || character.toNat < 0x80)
  | letterClass isNegated => !mode.isUnicode && !isNegated
  | any | edge | wordEdge => false

end Element

example : readEscape .start "u00e9)".toList = some (.literal 'é', [')']) := by decide +kernel

example : readEscape .start ['1'] = none ∧ readEscape .start ['-'] = some (.literal '-', []) := by
  decide +kernel

end KernelControls.Pattern
