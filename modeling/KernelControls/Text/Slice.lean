/-!
# Slices of a text by bytes

Positions in a text are counted in bytes of its UTF-8 form.  A slice between two positions
exists only if neither falls inside a character; `cutAt?` is the cut at one position, from
which slices are made.
-/

namespace KernelControls.Text

/-- How many bytes characters take. -/
def byteCount : List Char → Nat
  | [] => 0
  | character :: rest => character.utf8Size + byteCount rest

/-- Cut a text at a position, unless that would part the bytes of a character. -/
def cutAt? : Nat → List Char → Option (List Char × List Char)
  | 0, characters => some ([], characters)
  | _ + 1, [] => none
  | position + 1, character :: rest =>
    if character.utf8Size ≤ position + 1 then
      (cutAt? (position + 1 - character.utf8Size) rest).map fun (before, after) =>
        (character :: before, after)
    else none

/-- The characters from a position to the end. -/
def sliceFrom? (start : Nat) (characters : List Char) : Option (List Char) :=
  (cutAt? start characters).map Prod.snd

/-- The characters between two positions. -/
def slice? (start stop : Nat) (characters : List Char) : Option (List Char) := do
  let rest ← sliceFrom? start characters
  let (piece, _) ← cutAt? (stop - start) rest
  some piece

example : slice? 1 3 "aéb".toList = some ['é'] ∧ slice? 0 2 "aéb".toList = none := by
  decide +kernel

end KernelControls.Text
