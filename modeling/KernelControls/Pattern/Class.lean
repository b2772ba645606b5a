import KernelControls.Pattern.Element

/-!
# Classes of characters in patterns

A class stands in brackets and lists characters, ranges, classes with a name, and further
classes in brackets.  Pairs of signs between them stand for what two classes share, or for
what only one of them has.

## Strategy

Only the depth of the brackets is kept while a class is read: whatever may stand in a class may
stand there at any depth.
-/

namespace KernelControls.Pattern

/-! ## Opening -/

/-- The names of classes. -/
def classNames : List String :=
  ["alnum", "alpha", "ascii", "blank", "cntrl", "digit", "graph", "lower", "print", "punct",
    "space", "upper", "word", "xdigit"]

/-- Read a class with a name after its opening bracket; whether it is negated, and the rest. -/
def namedClass? : List Char → Option (Bool × List Char)
  | ':' :: rest =>
    let isNegated := rest.head? == some '^'
    let rest := if isNegated then rest.drop 1 else rest
    let name := rest.takeWhile (· != ':')
    match rest.drop name.length with
    | ':' :: ']' :: rest =>
      if classNames.contains (String.ofList name) then some (isNegated, rest) else none
    | _ => none
  | _ => none

/-- Whether a class may be negated, or the name of one may stand in a class: a class of bytes
with bytes beyond ASCII would match parts of characters. -/
def admitsNegation (mode : Mode) (isNegated : Bool) : Bool :=
  mode.isUnicode || !isNegated

/-- Read the hyphens that stand for themselves at the beginning of a class; whether there are
some, and the rest. -/
def leadingHyphens (mode : Mode) : Nat → List Char → Bool × List Char
  | 0, characters => (false, characters)
  | fuel + 1, characters =>
    match mode.skip characters with
    | '-' :: rest => (true, (leadingHyphens mode fuel rest).2)
    | characters => (false, characters)

/-- Read what stands between the opening bracket and the first ordinary item: a sign of
negation, and hyphens or a closing bracket that stand for themselves. -/
def openClass? (mode : Mode) (characters : List Char) : Option (List Char) := do
  let (isNegated, rest) :=
    match mode.skip characters with
    | '^' :: rest => (true, rest)
    | rest => (false, rest)
  let (hasHyphens, rest) := leadingHyphens mode (rest.length + 1) rest
  let (hasBracket, rest) :=
    match rest with
    | ']' :: rest => if hasHyphens then (false, ']' :: rest) else (true, rest)
    | rest => (false, rest)
  let hasItems := hasHyphens || hasBracket
  if admitsNegation mode isNegated && (!hasItems || Element.isExact mode) then some rest
  else none

/-! ## Items -/

/-- Read an element or a range from one to another. -/
def readRange? (mode : Mode) (characters : List Char) : Option (List Char) := do
  let (first, rest) ← readMember mode characters
  if !first.isMember mode then none
  else
    match mode.skip rest with
    | '-' :: rest =>
      let next := mode.glance rest
      if next == some ']' || next == some '-' then some ('-' :: rest)
      else
        let (last, rest) ← readMember mode (mode.skip rest)
        let low ← first.character?
        let high ← last.character?
        if last.isMember mode && low ≤ high then some rest else none
    | rest => some rest

/-- Read a class up to the bracket that closes it, with as many open within it as said. -/
def readItems? (mode : Mode) : Nat → Nat → List Char → Option (List Char)
  | 0, _, _ => none
  | fuel + 1, depth, characters =>
    match mode.skip characters with
    | ']' :: rest => if depth == 0 then some rest else readItems? mode fuel (depth - 1) rest
    | '&' :: '&' :: rest => readItems? mode fuel depth rest
    | '-' :: '-' :: rest => readItems? mode fuel depth rest
    | '~' :: '~' :: rest => readItems? mode fuel depth rest
    | '[' :: rest =>
      match namedClass? rest with
      | some (isNegated, rest) =>
        if admitsNegation mode isNegated && Element.isExact mode then
          readItems? mode fuel depth rest
        else none
      | none => (openClass? mode rest).bind (readItems? mode fuel (depth + 1))
    | rest => (readRange? mode rest).bind (readItems? mode fuel depth)

/-- Read a class after its opening bracket. -/
def readClass? (mode : Mode) (characters : List Char) : Option (List Char) := do
  let rest ← openClass? mode characters
  readItems? mode (rest.length + 1) 0 rest

example : readClass? .start "]a-c[:^digit:]&&[^x]]b".toList = some ['b'] := by decide +kernel

example : readClass? .start "c-a]".toList = none ∧ readClass? .start "a".toList = none := by
  decide +kernel

end KernelControls.Pattern
