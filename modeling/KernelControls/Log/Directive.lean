import KernelControls.Decimal
import KernelControls.Pattern
import KernelControls.Text.Slice

/-!
# Directives of log filters

A directive is a verbosity, a target with a verbosity for it, or a target alone, which lets
everything of it pass.  Between target and verbosity there may be a scope in brackets: a span,
or a field in braces, perhaps with a value or a pattern for it.

## Strategy

The structure of a directive is read off its text without the blanks at both ends, and its
parts are found by their positions in bytes.  The parts themselves are then taken from the
text with its blanks, at the same positions.  So blanks before a directive shift every part
of it, blanks behind it belong to its last part, and a directive whose parts would begin or
end within a character is severed: it ends the run.
-/

namespace KernelControls

/-- One directive of a filter. -/
structure LogDirective where
  /-- The beginning of the targets it is about; without one it is about all. -/
  target : Option String
  /-- The span it is about, or the field with a value; such a directive is about no record
  outside of spans. -/
  isScoped : Bool
  /-- The field that a record must have. -/
  field : Option String
  /-- The greatest verbosity that passes. -/
  verbosity : Nat
  deriving DecidableEq, Repr

namespace LogDirective

/-! ## Faults -/

/-- What is wrong with a directive. -/
inductive Fault where
  | malformed
  | verbosity
  | pattern (fault : Pattern.Fault)
  deriving DecidableEq, Repr

/-- What is said about a directive that is wrong. -/
def Fault.message : Fault → String
  | malformed => "invalid filter directive"
  | verbosity =>
    "error parsing level filter: expected one of \"off\", \"error\", \"warn\", \"info\", " ++
      "\"debug\", \"trace\", or a number 0-5"
  | pattern .malformed => "invalid field filter: error building NFA"
  | pattern .wordEdges => "invalid field filter: unsupported regex feature for DFAs"

/-- Why a directive was not read: it is wrong, or one of its parts is severed. -/
inductive Failure where
  | faulty (fault : Fault)
  | severed
  deriving DecidableEq, Repr

/-- The characters of a text between two positions, or from a position to the end. -/
def part (text : List Char) (start : Nat) (stop : Option Nat) : Except Failure (List Char) :=
  let found :=
    match stop with
    | some stop => Text.slice? start stop text
    | none => Text.sliceFrom? start text
  match found with
  | some piece => .ok piece
  | none => .error .severed

/-! ## Verbosities -/

/-- The verbosities by their names. -/
def verbosityNames : List (String × Nat) :=
  [("off", 0), ("error", 1), ("warn", 2), ("info", 3), ("debug", 4), ("trace", 5)]

/-- The verbosity of a directive that does not give one: everything. -/
def everything : Nat := 5

/-- Read a verbosity: its number, or its name in any case. -/
def verbosity? (characters : List Char) : Option Nat :=
  let number : Option Nat :=
    match characters with
    | '+' :: digits => Decimal.readDigits? digits
    | digits => Decimal.readDigits? digits
  match number with
  | some number => if number ≤ everything then some number else none
  | none => verbosityNames.lookup (String.ofList (characters.map Char.toLower))

/-- The verbosity that a text gives from a position to its end. -/
def endingVerbosity (text : List Char) (start : Nat) : Except Failure Nat := do
  match ← part text start none with
  | [] => .ok everything
  | ending =>
    match verbosity? ending with
    | some verbosity => .ok verbosity
    | none => .error (.faulty .verbosity)

/-! ## Fields -/

/-- Whether a text is a number with digits before or after a point, and perhaps an exponent. -/
def isNumber (characters : List Char) : Bool :=
  let whole := characters.takeWhile Char.isDigit
  let (places, rest) :=
    match characters.dropWhile Char.isDigit with
    | '.' :: rest => (rest.takeWhile Char.isDigit, rest.dropWhile Char.isDigit)
    | rest => ([], rest)
  let exponent? : Option (List Char) :=
    match rest with
    | 'e' :: rest => some rest
    | 'E' :: rest => some rest
    | _ => none
  let ends :=
    match exponent? with
    | some ('+' :: digits) => (Decimal.readDigits? digits).isSome
    | some ('-' :: digits) => (Decimal.readDigits? digits).isSome
    | some digits => (Decimal.readDigits? digits).isSome
    | none => rest.isEmpty
  !(whole.isEmpty && places.isEmpty) && ends

/-- The names of numbers without digits. -/
def numberNames : List String := ["inf", "infinity", "nan"]

/-- Whether a text is a number with a plus sign, which is no pattern but may be the value of a
field all the same. -/
def isPositive : List Char → Bool
  | '+' :: rest =>
    isNumber rest || numberNames.contains (String.ofList (rest.map Char.toLower))
  | _ => false

/-- Check the value of a field: a number or a pattern. -/
def checkValue (value : List Char) : Except Failure Unit :=
  if isPositive value then .ok ()
  else (Pattern.check value).mapError fun fault => .faulty (.pattern fault)

/-- Read what stands in braces: the name of a field, and whether it has a value.  Behind a
second equals sign everything is passed over. -/
def readField (content : List Char) : Except Failure (String × Bool) := do
  match content.splitOn '=' with
  | name :: value :: _ =>
    checkValue value
    .ok (String.ofList name, true)
  | _ =>
    if content.isEmpty then .error (.faulty .malformed) else .ok (String.ofList content, false)

/-! ## Reading -/

/-- Whether a directive may start with a character. -/
def isStarting (character : Char) : Bool :=
  ['-', ':', '_'].contains character || Text.isAlphanumeric character

/-- Read what follows a scope that ends before a position: nothing, or a verbosity. -/
def afterScope (text : List Char) (position : Nat) : List Char → Except Failure Nat
  | [] => .ok everything
  | '=' :: _ => endingVerbosity text (position + 1)
  | _ => .error (.faulty .malformed)

/-- Read a scope and what follows it, from behind its opening bracket. -/
def readScope (text : List Char) (target : Option String) (start : Nat)
    (characters : List Char) : Except Failure LogDirective := do
  let span := characters.takeWhile fun character => character != ']' && character != '\x7b'
  let stop := start + Text.byteCount span
  match characters.drop span.length with
  | ']' :: rest =>
    let _ ← part text start (some stop)
    let verbosity ← afterScope text (stop + 1) rest
    .ok ⟨target, true, none, verbosity⟩
  | _ :: rest =>
    let name ← part text start (some stop)
    let inside := rest.takeWhile (· != '\x7d')
    let ending := stop + 1 + Text.byteCount inside
    match rest.drop inside.length with
    | _ :: rest =>
      let (field, hasValue) ← readField (← part text (stop + 1) (some ending))
      match rest with
      | ']' :: rest =>
        let verbosity ← afterScope text (ending + 2) rest
        .ok ⟨target, hasValue || !name.isEmpty, some field, verbosity⟩
      | _ => .error (.faulty .malformed)
    | [] => .error (.faulty .malformed)
  | [] => .error (.faulty .malformed)

/-- Read a directive without a scope or a verbosity of its own: a verbosity for all targets, or
a target. -/
def ofWhole (text : List Char) : LogDirective :=
  match verbosity? text with
  | some verbosity => ⟨none, false, none, verbosity⟩
  | none => ⟨some (String.ofList text), false, none, everything⟩

/-- Read a directive. -/
def read (directive : String) : Except Failure LogDirective := do
  let text := directive.toList
  match Text.trim text with
  | '[' :: rest => readScope text none 1 rest
  | first :: rest =>
    if !isStarting first then .error (.faulty .malformed)
    else
      let characters := first :: rest
      let start := characters.takeWhile fun character => character != '=' && character != '['
      let stop := Text.byteCount start
      match characters.drop start.length with
      | [] => .ok (ofWhole text)
      | mark :: rest =>
        let target := String.ofList (← part text 0 (some stop))
        if mark == '[' then readScope text (some target) (stop + 1) rest
        else
          let verbosity ← endingVerbosity text (stop + 1)
          .ok ⟨some target, false, none, verbosity⟩
  | [] => .error (.faulty .malformed)

example :
    (read "a[\x7bmessage\x7d]=2").toOption = some ⟨some "a", false, some "message", 2⟩ := by
  decide +kernel

example : (read " warn").toOption = some ⟨some " warn", false, none, everything⟩ := by
  decide +kernel

example : (part "\u00a0a=1".toList 0 (some 1)).isOk = false := by decide +kernel

end LogDirective

end KernelControls
