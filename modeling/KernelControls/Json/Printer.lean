import KernelControls.Decimal
import KernelControls.Json.Basic
import KernelControls.Number.Positional

/-!
# Writing JSON

Two written forms: `render` on one line without blanks, and `pretty` with two blanks of
indentation per level, one item or field per line, and empty lists and records closed
where they open.  Both write texts alike: quotes, backslashes and control characters
after a backslash, everything else as itself.
-/

namespace KernelControls.Json

/-- One character of a written text. -/
def writtenCharacter (character : Char) : List Char :=
  match character with
  | '"' => ['\\', '"']
  | '\\' => ['\\', '\\']
  | '\x08' => ['\\', 'b']
  | '\x0c' => ['\\', 'f']
  | '\n' => ['\\', 'n']
  | '\r' => ['\\', 'r']
  | '\t' => ['\\', 't']
  | character =>
    if character.toNat < 0x20 then
      let digits := Nat.toDigits 16 character.toNat
      ['\\', 'u'] ++ List.replicate (4 - digits.length) '0' ++ digits
    else [character]

/-- A written text. -/
def writeText (text : String) : String :=
  String.ofList ('"' :: text.toList.flatMap writtenCharacter ++ ['"'])

/-! ## On one line -/

mutual

/-- The form on one line. -/
def render : Json → String
  | null => "null"
  | boolean value => if value then "true" else "false"
  | integer value => Decimal.text value
  | fraction value => Number.Positional.text value
  | text value => writeText value
  | list items => "[" ++ renderItems items ++ "]"
  | record fields => "\x7b" ++ renderFields fields ++ "\x7d"

/-- The items of a list, separated by commas. -/
def renderItems : List Json → String
  | [] => ""
  | [item] => render item
  | item :: rest => render item ++ "," ++ renderItems rest

/-- The fields of a record, separated by commas. -/
def renderFields : List (String × Json) → String
  | [] => ""
  | [(name, value)] => writeText name ++ ":" ++ render value
  | (name, value) :: rest => writeText name ++ ":" ++ render value ++ "," ++ renderFields rest

end

/-! ## On many lines -/

/-- A line break and the indentation of the given level. -/
def newLine (level : Nat) : String :=
  String.ofList ('\n' :: List.replicate (2 * level) ' ')

mutual

/-- The form on many lines, for a value that stands at the given level. -/
def indented (level : Nat) : Json → String
  | list [] => "[]"
  | record [] => "\x7b\x7d"
  | list items => "[" ++ indentedItems (level + 1) items ++ newLine level ++ "]"
  | record fields => "\x7b" ++ indentedFields (level + 1) fields ++ newLine level ++ "\x7d"
  | null => "null"
  | boolean value => if value then "true" else "false"
  | integer value => Decimal.text value
  | fraction value => Number.Positional.text value
  | text value => writeText value

/-- The items of a list, each on its own line. -/
def indentedItems (level : Nat) : List Json → String
  | [] => ""
  | [item] => newLine level ++ indented level item
  | item :: rest => newLine level ++ indented level item ++ "," ++ indentedItems level rest

/-- The fields of a record, each on its own line. -/
def indentedFields (level : Nat) : List (String × Json) → String
  | [] => ""
  | [(name, value)] => newLine level ++ writeText name ++ ": " ++ indented level value
  | (name, value) :: rest =>
    newLine level ++ writeText name ++ ": " ++ indented level value ++ "," ++
      indentedFields level rest

end

/-- The form on many lines. -/
def pretty (value : Json) : String :=
  indented 0 value

end KernelControls.Json
