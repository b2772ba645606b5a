import KernelControls.Text.Visible

/-!
# Quoted text

Messages show a text they complain about between double quotes, so that blanks at its
ends and characters without a printed form can be seen.  A quote and a backslash are
written after a backslash, the usual control characters by their letters, and every other
character that does not show as itself by its code in braces.
-/

namespace KernelControls.Text

/-- One character of a quoted text. -/
def quotedCharacter : Char → List Char
  | '"' => ['\\', '"']
  | '\\' => ['\\', '\\']
  | '\n' => ['\\', 'n']
  | '\r' => ['\\', 'r']
  | '\t' => ['\\', 't']
  | '\x00' => ['\\', '0']
  | character =>
    if isVisible character then [character]
    else ['\\', 'u', '\x7b'] ++ Nat.toDigits 16 character.toNat ++ ['\x7d']

/-- A text between double quotes. -/
def quoted (text : String) : String :=
  String.ofList ('"' :: text.toList.flatMap quotedCharacter ++ ['"'])

/-- Texts between double quotes, in brackets and separated by commas. -/
def quotedList (texts : List String) : String :=
  "[" ++ String.intercalate ", " (texts.map quoted) ++ "]"

example : quoted "a\tb" = "\"a\\tb\"" := by decide +kernel

end KernelControls.Text
