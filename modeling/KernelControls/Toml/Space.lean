/-!
# Blanks, comments and line ends in TOML

Blanks are spaces and tabs.  A line ends with a line feed, which a carriage return may
precede.  A comment runs from `#` to the end of its line and may hold any character that a
text may hold.
-/

namespace KernelControls.Toml

/-- Whether a character is a blank within a line. -/
def isBlank (character : Char) : Bool :=
  character == ' ' || character == '\t'

/-- Whether a character may stand in texts and comments as it is. -/
def isPrinting (character : Char) : Bool :=
  character == '\t' || (0x20 ≤ character.toNat && character.toNat != 0x7f)

/-- Drop blanks. -/
def skipBlanks (characters : List Char) : List Char :=
  characters.dropWhile isBlank

/-- Strip a line end from the front. -/
def newline? : List Char → Option (List Char)
  | '\n' :: rest => some rest
  | '\r' :: '\n' :: rest => some rest
  | _ => none

/-- Drop what may follow a statement on its line, and the line end unless the document
ends. -/
def endLine? (characters : List Char) : Option (List Char) :=
  let rest :=
    match skipBlanks characters with
    | '#' :: comment => comment.dropWhile isPrinting
    | rest => rest
  if rest.isEmpty then some [] else newline? rest

/-- Drop blanks, line ends and comments, as between the items of a list.  The flag says
whether the characters begin within a comment. -/
def skipSpace? : Bool → List Char → Option (List Char)
  | inComment, [] => if inComment then none else some []
  | _, '\n' :: rest => skipSpace? false rest
  | _, '\r' :: '\n' :: rest => skipSpace? false rest
  | true, character :: rest => if isPrinting character then skipSpace? true rest else none
  | false, character :: rest =>
    if isBlank character then skipSpace? false rest
    else if character == '#' then skipSpace? true rest
    else some (character :: rest)

end KernelControls.Toml
