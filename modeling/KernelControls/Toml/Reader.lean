import KernelControls.Toml.Key
import KernelControls.Toml.Moment
import KernelControls.Toml.Number

/-!
# Reading TOML

`Toml.read?` reads one document and refuses everything that the format forbids.

## Strategy

A reader takes the characters that are left and gives a value and the rest.  A document is
first read as a list of statements, one a line; then the statements are carried out one
after the other on an empty table.  Nesting is bounded by a budget, and every loop over
items or statements by the number of characters left.
-/

namespace KernelControls.Toml

/-! ## Values -/

/-- Strip a fixed word from the front. -/
def expect? : List Char → List Char → Option (List Char)
  | [], characters => some characters
  | _ :: _, [] => none
  | letter :: word, character :: rest => if letter = character then expect? word rest else none

/-- Read a number or a moment. -/
def readQuantity (characters : List Char) : Option (Toml × List Char) :=
  match readMoment characters with
  | some (written, rest) => some (.moment written, rest)
  | none => readNumber characters

/-- Read a value that holds no other values. -/
def readScalar (characters : List Char) : Option (Toml × List Char) :=
  match characters with
  | '"' :: _ => (readText characters).map fun (content, rest) => (.text content, rest)
  | '\'' :: _ => (readText characters).map fun (content, rest) => (.text content, rest)
  | 't' :: rest => (expect? ['r', 'u', 'e'] rest).map fun rest => (.boolean true, rest)
  | 'f' :: rest => (expect? ['a', 'l', 's', 'e'] rest).map fun rest => (.boolean false, rest)
  | characters => readQuantity characters

/-- Read the items of a list up to its closing bracket.  A comma may follow the last item. -/
def readItems (value : List Char → Option (Toml × List Char)) :
    Nat → List Char → Option (List Toml × List Char)
  | 0, _ => none
  | fuel + 1, characters => do
    match ← skipSpace? false characters with
    | ']' :: rest => some ([], rest)
    | characters =>
      let (first, rest) ← value characters
      match ← skipSpace? false rest with
      | ',' :: rest =>
        let (others, rest) ← readItems value fuel rest
        some (first :: others, rest)
      | ']' :: rest => some ([first], rest)
      | _ => none

/-- Read a key, an equals sign and a value. -/
def readAssignment (value : List Char → Option (Toml × List Char)) (characters : List Char) :
    Option ((List String × Toml) × List Char) := do
  let (path, rest) ← readParts partLimit characters
  let rest ← readMark '=' rest
  let (content, rest) ← value (skipBlanks rest)
  some ((path, content), rest)

/-- Read assignments separated by commas, one at least, up to the closing brace. -/
def readAssignments (value : List Char → Option (Toml × List Char)) :
    Nat → List Char → Option (List (List String × Toml) × List Char)
  | 0, _ => none
  | fuel + 1, characters => do
    let (first, rest) ← readAssignment value characters
    match skipBlanks rest with
    | ',' :: rest =>
      let (others, rest) ← readAssignments value fuel rest
      some (first :: others, rest)
    | '\x7d' :: rest => some ([first], rest)
    | _ => none

/-- The table of assignments, in order. -/
def ofAssignments? (assignments : List (List String × Toml)) : Option Fields :=
  assignments.foldlM (fun fields assignment => define assignment.2 fields assignment.1) []

/-- Read a table in braces after the opening one. -/
def readInline (value : List Char → Option (Toml × List Char)) (characters : List Char) :
    Option (Toml × List Char) := do
  let (assignments, rest) ←
    match skipBlanks characters with
    | '\x7d' :: rest => some ([], rest)
    | characters => readAssignments value (characters.length + 1) characters
  let fields ← ofAssignments? assignments
  some (.table .inline fields, rest)

/-- Read a value with a budget for nesting. -/
def readValue : Nat → List Char → Option (Toml × List Char)
  | 0, characters =>
    match characters with
    | '[' :: _ => none
    | '\x7b' :: _ => none
    | characters => readScalar characters
  | depth + 1, characters =>
    match characters with
    | '[' :: rest =>
      (readItems (readValue depth) (rest.length + 1) rest).map fun (items, rest) =>
        (.list items, rest)
    | '\x7b' :: rest => readInline (readValue depth) rest
    | characters => readScalar characters

/-- How deep lists and tables in braces may be nested. -/
def nestingLimit : Nat := 79

/-! ## Statements -/

/-- What a line of a document says. -/
inductive Statement where
  | assign (path : List String) (value : Toml)
  | openTable (path : List String)
  | openElement (path : List String)
  deriving Repr

/-- Read the path of a header up to its closing brackets. -/
def readHeader (closing : List Char) (characters : List Char) :
    Option (List String × List Char) := do
  let (path, rest) ← readParts partLimit characters
  let rest ← expect? closing rest
  some (path, ← endLine? rest)

/-- Read a statement up to the end of its line. -/
def readStatement (characters : List Char) : Option (Statement × List Char) :=
  match characters with
  | '[' :: '[' :: rest =>
    (readHeader [']', ']'] rest).map fun (path, rest) => (.openElement path, rest)
  | '[' :: rest => (readHeader [']'] rest).map fun (path, rest) => (.openTable path, rest)
  | characters => do
    let ((path, value), rest) ← readAssignment (readValue nestingLimit) characters
    some (.assign path value, ← endLine? rest)

/-- Read the statements of a document. -/
def readStatements : Nat → List Char → Option (List Statement)
  | 0, _ => none
  | fuel + 1, characters =>
    match skipBlanks characters with
    | [] => some []
    | character :: rest =>
      if character == '#' || character == '\n' || character == '\r' then
        (endLine? (character :: rest)).bind (readStatements fuel)
      else do
        let (statement, rest) ← readStatement (character :: rest)
        let others ← readStatements fuel rest
        some (statement :: others)

/-! ## Documents -/

/-- A document that has been carried out up to some line: all tables, and the path of the one
that assignments go to. -/
structure Draft where
  fields : Fields
  current : List String

/-- Carry out a statement. -/
def Draft.follow (draft : Draft) : Statement → Option Draft
  | .assign path value =>
    (under (fun fields => define value fields path) draft.fields draft.current).map fun fields =>
      { draft with fields := fields }
  | .openTable path => do
    let fields ← under (openTable (← path.getLast?)) draft.fields path.dropLast
    some ⟨fields, path⟩
  | .openElement path => do
    let fields ← under (openElement (← path.getLast?)) draft.fields path.dropLast
    some ⟨fields, path⟩

/-- The table that statements describe. -/
def ofStatements? (statements : List Statement) : Option Fields :=
  (statements.foldlM Draft.follow ⟨[], []⟩).map Draft.fields

/-- Read one document; a byte order mark before it is dropped. -/
def read? (document : String) : Option Fields := do
  let characters :=
    match document.toList with
    | '\ufeff' :: rest => rest
    | characters => characters
  ofStatements? (← readStatements (characters.length + 1) characters)

end KernelControls.Toml
