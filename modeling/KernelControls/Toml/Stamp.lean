import KernelControls.Toml.Basic
import KernelControls.Toml.Moment

/-!
# Tables that stand for moments

A writer without moments of its own puts one into a table: under a key that is reserved for
this, as a text.  `resolve?` replaces such tables by the moments that they stand for, at any
depth, and refuses a value in which one of them holds no moment.

## Strategy

A table is such a stamp if the reserved key is its first; what else it holds is passed over.
The text of a stamp is read more freely than a moment in a document: midnight may end a day as
hour 24, and an offset may be written with any two digits, as long as it is no longer than a
day.
-/

namespace KernelControls.Toml

/-! ## The text of a stamp -/

/-- Read the text of a stamp as a whole, and give the moment's standard text. -/
def readStamp? (text : String) : Option String := do
  let characters := text.toList
  if characters[2]? == some ':' then
    let (time, rest) ← readTime 24 characters
    if rest.isEmpty then some time.text else none
  else
    let (date, rest) ← readDate characters
    match rest with
    | [] => some date.text
    | separator :: rest =>
      if !isSeparator separator then none
      else
        let (time, rest) ← readTime 24 rest
        let (offset, rest) ← readOffset 99 99 rest
        if rest.isEmpty then some (joined date time offset) else none

/-! ## Values with stamps -/

/-- The key that is reserved for stamps. -/
def stampKey : String := "$__toml_private_datetime"

/-- The content of a stamp, if a table is one. -/
def stamp? : Fields → Option Toml
  | [] => none
  | (key, content) :: _ => if key = stampKey then some content else none

/-- The moment that the content of a stamp gives. -/
def ofStamp? : Toml → Option Toml
  | .text content => (readStamp? content).map .moment
  | _ => none

mutual

/-- Replace the stamps in a value. -/
def resolve? : Toml → Option Toml
  | .list items => (resolveItems? items).map .list
  | .table origin fields =>
    match stamp? fields with
    | some content => ofStamp? content
    | none => (resolveFields? fields).map (.table origin)
  | .tables elements => (resolveElements? elements).map .list
  | plain => some plain

/-- Replace the stamps in the items of a list. -/
def resolveItems? : List Toml → Option (List Toml)
  | [] => some []
  | first :: rest => do
    let first ← resolve? first
    let rest ← resolveItems? rest
    some (first :: rest)

/-- Replace the stamps in the fields of a table, which is none itself. -/
def resolveFields? : List (String × Toml) → Option (List (String × Toml))
  | [] => some []
  | (key, first) :: rest => do
    let first ← resolve? first
    let rest ← resolveFields? rest
    some ((key, first) :: rest)

/-- Replace the stamps in an array of tables and among them. -/
def resolveElements? : List (List (String × Toml)) → Option (List Toml)
  | [] => some []
  | first :: rest => do
    let first ←
      match stamp? first with
      | some content => ofStamp? content
      | none => (resolveFields? first).map (.table .header)
    let rest ← resolveElements? rest
    some (first :: rest)

end

/-- Replace the stamps in a document, which must not be one itself. -/
def resolveDocument? (fields : Fields) : Option Fields :=
  match stamp? fields with
  | some _ => none
  | none => resolveFields? fields

example : readStamp? "1979-05-27t24:00:60.5-24:00" = some "1979-05-27T24:00:60.5-24:00" := by
  decide +kernel

example : readStamp? "07:32:00Z" = none ∧ readStamp? "1979-02-29" = none := by decide +kernel

end KernelControls.Toml
