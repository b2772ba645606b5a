/-!
# Blank characters

The text of a control node ends in a line break more often than not, and a line of
values is separated by blanks.  This module holds the class of blank characters,
trimming, and the cut of a text into words.

## Strategy

The class is a table of code ranges (the property `White_Space`), so that
membership is decided by comparison of numbers.  Trimming drops blanks at both ends,
and words are the non-empty pieces between blanks.
-/

namespace KernelControls.Text

/-- Whether a character's code lies in one of the closed ranges of a table. -/
def inRanges (ranges : List (Nat × Nat)) (character : Char) : Bool :=
  ranges.any fun range =>
    range.1 ≤ character.toNat && character.toNat ≤ range.2

/-- The code ranges of the blank characters. -/
def blankRanges : List (Nat × Nat) :=
  [(0x9, 0xD), (0x20, 0x20), (0x85, 0x85), (0xA0, 0xA0), (0x1680, 0x1680),
    (0x2000, 0x200A), (0x2028, 0x2029), (0x202F, 0x202F), (0x205F, 0x205F),
    (0x3000, 0x3000)]

/-- A blank character: a space, a tab, a line break, or one of their relatives. -/
def isBlank (character : Char) : Bool :=
  inRanges blankRanges character

/-- Drop the blanks at both ends. -/
def trim (characters : List Char) : List Char :=
  ((characters.dropWhile isBlank).reverse.dropWhile isBlank).reverse

/-- The non-empty pieces between blanks, in order. -/
def words (characters : List Char) : List (List Char) :=
  (characters.splitOnP isBlank).filter fun word => !word.isEmpty

end KernelControls.Text
