import KernelControls.Text.Blank

/-!
# Modes of patterns

A pattern is read in modes that it can switch on and off itself, each by a letter.  Three of
them decide what is a pattern at all: whether letters match in either case, whether the
pattern is about characters or about bytes, and whether blanks and comments in it are passed
over.  The other modes only change what a pattern matches.
-/

namespace KernelControls.Pattern

/-- The modes in which a part of a pattern is read. -/
structure Mode where
  /-- Letters match in either case. -/
  ignoresCase : Bool
  /-- The pattern is about characters, and else about bytes. -/
  isUnicode : Bool
  /-- Blanks and comments are passed over. -/
  isSpaced : Bool
  deriving DecidableEq, Repr

namespace Mode

/-- The modes in which a pattern starts. -/
def start : Mode :=
  ⟨false, true, false⟩

/-! ## Switching -/

/-- The letters of all modes. -/
def letters : List Char :=
  ['i', 'm', 's', 'U', 'u', 'R', 'x']

/-- The letters that switch modes on, and behind a hyphen those that switch modes off.  No
letter stands twice, and behind the hyphen there is one at least. -/
def isSwitch (items : List Char) : Bool :=
  items.all (fun item => item == '-' || letters.contains item) &&
    decide items.Nodup && items.getLast? != some '-'

/-- Whether a mode is on after letters have switched it. -/
def switched (items : List Char) (letter : Char) (before : Bool) : Bool :=
  if (items.takeWhile (· != '-')).contains letter then true
  else if items.contains letter then false
  else before

/-- The modes after letters have switched them. -/
def switch (mode : Mode) (items : List Char) : Mode where
  ignoresCase := switched items 'i' mode.ignoresCase
  isUnicode := switched items 'u' mode.isUnicode
  isSpaced := switched items 'x' mode.isSpaced

/-! ## Blanks and comments -/

/-- Drop blanks and comments from the front, perhaps from within a comment.  A comment goes
from a number sign to the end of its line. -/
def dropSpacing : Bool → List Char → List Char
  | _, [] => []
  | true, character :: rest => dropSpacing (character != '\n') rest
  | false, character :: rest =>
    if Text.isBlank character then dropSpacing false rest
    else if character == '#' then dropSpacing true rest
    else character :: rest

/-- Drop what is passed over in a mode. -/
def skip (mode : Mode) (characters : List Char) : List Char :=
  if mode.isSpaced then dropSpacing false characters else characters

/-- The character that is taken to follow when nothing is dropped yet.  Of a comment only the
number sign is passed over. -/
def glance (mode : Mode) (characters : List Char) : Option Char :=
  if mode.isSpaced then
    match characters.dropWhile Text.isBlank with
    | '#' :: rest => (rest.dropWhile Text.isBlank).head?
    | rest => rest.head?
  else characters.head?

example : (start.switch ['x', '-', 'u']).skip " # a\n\tb".toList = ['b'] := by decide +kernel

example : isSwitch ['i', '-'] = false ∧ isSwitch ['i', '-', 'i'] = false := by decide +kernel

end Mode

end KernelControls.Pattern
