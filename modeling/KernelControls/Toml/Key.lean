import KernelControls.Toml.Text

/-!
# Keys in TOML

A key stands bare if it consists of ASCII letters, digits, underscores and hyphens, and in
quotes otherwise.  Dots between keys lead from a table to one below it.

## Strategy

Reading accepts every notation.  Writing chooses the plainest that can hold the key: bare,
then double quotes if nothing needs an escape, then single quotes if they spare the escape of
a quote or a backslash, then double quotes with escapes.
-/

namespace KernelControls.Toml

/-- Whether a character may stand in a bare key. -/
def isBare (character : Char) : Bool :=
  character.isAlphanum || character == '_' || character == '-'

/-! ## Reading -/

/-- Read one key. -/
def readKey (characters : List Char) : Option (String × List Char) :=
  let read (quoting : Quoting) (characters : List Char) : Option (String × List Char) :=
    (readContent quoting (.plain false) characters).map fun (content, rest) =>
      (String.ofList content, rest)
  match characters with
  | '"' :: rest => read .basic rest
  | '\'' :: rest => read .literal rest
  | characters =>
    let bare := characters.takeWhile isBare
    if bare.isEmpty then none else some (String.ofList bare, characters.dropWhile isBare)

/-- How many parts a key with dots may have. -/
def partLimit : Nat := 79

/-- Read a key with dots, of at most the given number of parts. -/
def readParts : Nat → List Char → Option (List String × List Char)
  | 0, _ => none
  | budget + 1, characters => do
    let (key, rest) ← readKey (skipBlanks characters)
    match skipBlanks rest with
    | '.' :: rest =>
      let (keys, rest) ← readParts budget rest
      some (key :: keys, rest)
    | rest => some ([key], rest)

/-! ## Writing -/

/-- Whether a character is an ASCII control character. -/
def isControl (character : Char) : Bool :=
  character.toNat ≤ 0x1f || character.toNat == 0x7f

/-- A character within double quotes. -/
def writeEscaped (character : Char) : List Char :=
  if character == '\x08' then ['\\', 'b']
  else if character == '\t' then ['\\', 't']
  else if character == '\n' then ['\\', 'n']
  else if character == '\x0c' then ['\\', 'f']
  else if character == '\r' then ['\\', 'r']
  else if character == '"' then ['\\', '"']
  else if character == '\\' then ['\\', '\\']
  else if isControl character then '\\' :: 'u' :: Hexadecimal.fourDigits character.toNat
  else [character]

/-- Whether a character needs a backslash before it within double quotes. -/
def isMarked (character : Char) : Bool :=
  character == '"' || character == '\\'

/-- Whether a character may stand within single quotes. -/
def isLiteral (character : Char) : Bool :=
  character != '\'' && (character == '\t' || !isControl character)

/-- A key in the plainest notation that can hold it. -/
def writeKey (key : String) : List Char :=
  let characters := key.toList
  if !characters.isEmpty && characters.all isBare then characters
  else if !characters.any fun character => isMarked character || isControl character then
    '"' :: characters ++ ['"']
  else if characters.any isMarked && characters.all isLiteral then
    '\'' :: characters ++ ['\'']
  else '"' :: characters.flatMap writeEscaped ++ ['"']

example : writeKey "a/b" = "\"a/b\"".toList := by decide +kernel

example : writeKey "a\"b" = "'a\"b'".toList := by decide +kernel

example : writeKey "a\tb" = "\"a\\tb\"".toList := by decide +kernel

end KernelControls.Toml
