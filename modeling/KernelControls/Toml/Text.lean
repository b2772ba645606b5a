import KernelControls.Text.Hexadecimal
import KernelControls.Toml.Space

/-!
# Texts in TOML

A text stands in double quotes, where a backslash escapes, or in single quotes, where
nothing does.  Three quotes instead of one let it span lines.

## Strategy

The four notations differ in three things, gathered in `Quoting`, and are read by one
pass over the characters.  What a character means depends on how far the reading has
come: `Progress` says whether a backslash went before it, or digits of an escape, or a
line end that a backslash removes together with the blanks around it.
-/

namespace KernelControls.Toml

/-- How a text is marked. -/
structure Quoting where
  /-- The quote that opens and closes the text. -/
  mark : Char
  /-- Whether a backslash escapes. -/
  escapes : Bool
  /-- Whether the text may span lines, so that it takes three quotes to close it. -/
  lines : Bool
  deriving DecidableEq, Repr

namespace Quoting

/-- One line between double quotes. -/
def basic : Quoting := ⟨'"', true, false⟩

/-- One line between single quotes. -/
def literal : Quoting := ⟨'\'', false, false⟩

/-- Lines between three double quotes. -/
def basicLines : Quoting := ⟨'"', true, true⟩

/-- Lines between three single quotes. -/
def literalLines : Quoting := ⟨'\'', false, true⟩

/-- What closes a text here: quotes that still belong to the text, and the rest.  Before
three closing quotes there may be one or two more. -/
def closing? (quoting : Quoting) (characters : List Char) : Option (List Char × List Char) :=
  let marks := characters.takeWhile (· == quoting.mark)
  if quoting.lines then
    if marks.length < 3 then none
    else
      let inside := min (marks.length - 3) 2
      some (marks.take inside, characters.drop (inside + 3))
  else if marks.isEmpty then none
  else some ([], characters.drop 1)

end Quoting

/-- How far the reading of a text has come. -/
inductive Progress where
  | plain (folding : Bool)
  | escape
  | foldedLine
  | code (left number : Nat)
  deriving DecidableEq, Repr

/-- The character that a backslash and a letter stand for. -/
def escaped? : Char → Option Char
  | '"' => some '"'
  | '\\' => some '\\'
  | 'b' => some '\x08'
  | 'f' => some '\x0c'
  | 'n' => some '\n'
  | 'r' => some '\r'
  | 't' => some '\t'
  | _ => none

/-- A character in front of a text that was read, with the rest. -/
def push (character : Char) (read : Option (List Char × List Char)) :
    Option (List Char × List Char) :=
  read.map fun (content, rest) => (character :: content, rest)

/-- Whether a line ends here. -/
def isLineEnd (character : Char) (rest : List Char) : Bool :=
  character == '\n' || (character == '\r' && rest.head? == some '\n')

/-- Read the content of a text up to its closing quotes. -/
def readContent (quoting : Quoting) : Progress → List Char → Option (List Char × List Char)
  | _, [] => none
  | .plain folding, character :: rest =>
    if folding && (isBlank character || isLineEnd character rest) then
      readContent quoting (.plain true) rest
    else
      match quoting.closing? (character :: rest) with
      | some closed => some closed
      | none =>
        if character == '\\' && quoting.escapes then readContent quoting .escape rest
        else if isPrinting character then push character (readContent quoting (.plain false) rest)
        else if !quoting.lines || !isLineEnd character rest then none
        else if character == '\n' then push '\n' (readContent quoting (.plain false) rest)
        else readContent quoting (.plain false) rest
  | .escape, character :: rest =>
    if character == 'u' then readContent quoting (.code 4 0) rest
    else if character == 'U' then readContent quoting (.code 8 0) rest
    else
      match escaped? character with
      | some meant => push meant (readContent quoting (.plain false) rest)
      | none =>
        if !quoting.lines then none
        else if isLineEnd character rest then readContent quoting (.plain true) rest
        else if isBlank character then readContent quoting .foldedLine rest
        else none
  | .foldedLine, character :: rest =>
    if isLineEnd character rest then readContent quoting (.plain true) rest
    else if isBlank character then readContent quoting .foldedLine rest
    else none
  | .code left number, character :: rest => do
    let digit ← Hexadecimal.digit? character
    let number := 16 * number + digit
    if left ≤ 1 then
      let meant ← Hexadecimal.character? number
      push meant (readContent quoting (.plain false) rest)
    else readContent quoting (.code (left - 1) number) rest

/-- Read a text whose opening quote is the first character. -/
def readText (characters : List Char) : Option (String × List Char) :=
  let read (quoting : Quoting) (characters : List Char) : Option (String × List Char) :=
    (readContent quoting (.plain false) characters).map fun (content, rest) =>
      (String.ofList content, rest)
  let withoutFirstLineEnd (characters : List Char) : List Char :=
    (newline? characters).getD characters
  match characters with
  | '"' :: '"' :: '"' :: rest => read .basicLines (withoutFirstLineEnd rest)
  | '\'' :: '\'' :: '\'' :: rest => read .literalLines (withoutFirstLineEnd rest)
  | '"' :: rest => read .basic rest
  | '\'' :: rest => read .literal rest
  | _ => none

end KernelControls.Toml
