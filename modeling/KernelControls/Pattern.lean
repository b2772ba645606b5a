import KernelControls.Pattern.Class
import KernelControls.Text.Alphanumeric

/-!
# Patterns

A pattern is a regular expression that the value of a field is compared with.  Here it is only
checked, not matched.  It holds no closing brace, so what needs one is refused: counted
repetitions, and names in braces.

## Strategy

The check goes through a pattern once, from left to right.  What it keeps is small: the modes
in force and those to return to after each open group, the names of groups, and whether there
is something that could be repeated.
-/

namespace KernelControls.Pattern

/-- Why a pattern cannot be used: it is none, or it asks for the edges of words of all scripts. -/
inductive Fault where
  | malformed
  | wordEdges
  deriving DecidableEq, Repr

/-- What is known about a pattern up to some place. -/
structure Progress where
  mode : Mode
  /-- The modes outside of the open groups, from the innermost to the outermost. -/
  outside : List Mode
  names : List (List Char)
  /-- Whether something stands before the place that could be repeated. -/
  canRepeat : Bool
  /-- Whether the pattern asks for edges of words of all scripts. -/
  hasWordEdges : Bool
  deriving Repr

namespace Progress

/-- What is known at the beginning of a pattern. -/
def start : Progress :=
  ⟨.start, [], [], false, false⟩

/-- A group opens in the given mode. -/
def enter (progress : Progress) (mode : Mode) : Progress :=
  { progress with mode, outside := progress.mode :: progress.outside, canRepeat := false }

/-- The innermost group closes. -/
def leave? (progress : Progress) : Option Progress :=
  match progress.outside with
  | [] => none
  | mode :: outside => some { progress with mode, outside, canRepeat := true }

end Progress

/-! ## Groups -/

/-- Whether a character may stand in the name of a group. -/
def isNaming (character : Char) : Bool :=
  ['_', '.', '[', ']'].contains character || Text.isAlphanumeric character

/-- Whether a text may be the name of a group. -/
def isName : List Char → Bool
  | [] => false
  | first :: rest => (first == '_' || Text.isAlphabetic first) && rest.all isNaming

/-- Open a group with a name, before the name. -/
def enterNamed? (progress : Progress) (characters : List Char) :
    Option (Progress × List Char) :=
  let name := characters.takeWhile (· != '>')
  match characters.drop name.length with
  | '>' :: rest =>
    if isName name && !progress.names.contains name then
      some ({ progress with names := name :: progress.names }.enter progress.mode, rest)
    else none
  | _ => none

/-- Switch modes, for the rest of the group or for a group that opens, before the letters. -/
def switchModes? (progress : Progress) (characters : List Char) :
    Option (Progress × List Char) :=
  let items := characters.takeWhile fun character => character != ':' && character != ')'
  if !Mode.isSwitch items then none
  else
    let mode := progress.mode.switch items
    match characters.drop items.length with
    | ':' :: rest => some (progress.enter mode, rest)
    | ')' :: rest =>
      if items.isEmpty then none else some ({ progress with mode, canRepeat := false }, rest)
    | _ => none

/-- Read what follows an opening parenthesis.  Groups that only look ahead or back are
refused. -/
def openGroup? (progress : Progress) (characters : List Char) : Option (Progress × List Char) :=
  match progress.mode.skip characters with
  | '?' :: '=' :: _ => none
  | '?' :: '!' :: _ => none
  | '?' :: '<' :: '=' :: _ => none
  | '?' :: '<' :: '!' :: _ => none
  | '?' :: 'P' :: '<' :: rest => enterNamed? progress rest
  | '?' :: '<' :: rest => enterNamed? progress rest
  | '?' :: rest => switchModes? progress rest
  | rest => some (progress.enter progress.mode, rest)

/-! ## Steps -/

/-- Read an element that stands by itself. -/
def takeElement? (progress : Progress) (characters : List Char) :
    Option (Progress × List Char) := do
  let (element, rest) ← readElement progress.mode characters
  if !element.isAdmitted progress.mode then none
  else
    let asks := element == .wordEdge && progress.mode.isUnicode
    some ({ progress with
      canRepeat := true
      hasWordEdges := progress.hasWordEdges || asks }, rest)

/-- Repeat what stands before a sign of repetition; a question mark after the sign belongs to
it. -/
def repeat? (progress : Progress) (characters : List Char) : Option (Progress × List Char) :=
  if !progress.canRepeat then none
  else
    match characters with
    | '?' :: rest => some (progress, rest)
    | rest => some (progress, rest)

/-- Read the next part of a pattern, which has one. -/
def step? (progress : Progress) (characters : List Char) : Option (Progress × List Char) :=
  match characters with
  | '(' :: rest => openGroup? progress rest
  | ')' :: rest => progress.leave?.map fun progress => (progress, rest)
  | '|' :: rest => some ({ progress with canRepeat := false }, rest)
  | '[' :: rest =>
    (readClass? progress.mode rest).map fun rest => ({ progress with canRepeat := true }, rest)
  | '?' :: rest => repeat? progress rest
  | '*' :: rest => repeat? progress rest
  | '+' :: rest => repeat? progress rest
  | '\x7b' :: _ => none
  | characters => takeElement? progress characters

/-! ## The check -/

/-- Go through a pattern, in as many steps as the fuel allows. -/
def scan : Nat → Progress → List Char → Option Progress
  | 0, _, _ => none
  | fuel + 1, progress, characters =>
    match progress.mode.skip characters with
    | [] => some progress
    | characters =>
      match step? progress characters with
      | some (progress, rest) => scan fuel progress rest
      | none => none

/-- Check a pattern. -/
def check (characters : List Char) : Except Fault Unit :=
  match scan (characters.length + 1) .start characters with
  | none => .error .malformed
  | some progress =>
    if !progress.outside.isEmpty then .error .malformed
    else if progress.hasWordEdges then .error .wordEdges
    else .ok ()

example : (check "(?<a>x)*?|[^-&&]+(?-u:\\b\\d)".toList).isOk = true := by decide +kernel

example : (check "(".toList).isOk = false ∧ (check "a|*".toList).isOk = false ∧
    (check "(?i)a".toList).isOk = false := by
  decide +kernel

end KernelControls.Pattern
