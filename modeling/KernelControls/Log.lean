/-!
# Log records

A run tells what it does in records.  Each has a level and names the part of the program
that it comes from, its target, so that a filter can choose among them.  A record is shown as
a line in which nothing of its message can steer a terminal.
-/

namespace KernelControls

/-- How important a record is. -/
inductive Level where
  | warn
  | info
  deriving DecidableEq, Repr

namespace Level

/-- The word for a level. -/
def title : Level → String
  | warn => "WARN"
  | info => "INFO"

/-- The verbosity that a filter must allow to let a level pass. -/
def verbosity : Level → Nat
  | warn => 2
  | info => 3

end Level

/-- One record of a log. -/
structure LogRecord where
  level : Level
  target : String
  message : String
  deriving DecidableEq, Repr

namespace LogRecord

/-- The characters of ASCII that steer a terminal: the bell, the backspace, the form feed, the
escape and the deletion. -/
def steering : List Char :=
  ['\x07', '\x08', '\x0c', '\x1b', '\x7f']

/-- A character of a message as it is shown.  A character that steers a terminal is shown by
its code, and so are the control characters beyond ASCII. -/
def shownCharacter (character : Char) : List Char :=
  let code := character.toNat
  if steering.contains character then
    ['\\', 'x', Nat.digitChar (code / 16), Nat.digitChar (code % 16)]
  else if 0x80 ≤ code && code ≤ 0x9f then
    ['\\', 'u', '\x7b'] ++ Nat.toDigits 16 code ++ ['\x7d']
  else [character]

/-- The line that shows a record. -/
def line (record : LogRecord) : String :=
  record.level.title ++ " " ++ String.ofList (record.message.toList.flatMap shownCharacter)

example : line ⟨.info, "", "a\x1b[0m\u0085"⟩ = "INFO a\\x1b[0m\\u\x7b85\x7d" := by
  decide +kernel

end LogRecord

end KernelControls
