import KernelControls.Association
import KernelControls.Number.Binary64

/-!
# TOML documents as values

A document is a table whose keys were set one after the other, below one header after the
other.  Whether a table may still be extended depends on how it came to be, so every table
remembers its origin.

## Strategy

`define` sets a key with dots, `under` follows the path of a header, and `openTable` and
`openElement` are what the two kinds of headers do at the end of their path.  Each fails
where the format forbids to define something twice.
-/

namespace KernelControls

/-- How a table came to be: written in braces, opened by its own header, implied by the
header of a table below it, or implied by a key with dots. -/
inductive Toml.Origin where
  | inline
  | header
  | implied
  | dotted
  deriving DecidableEq, Repr

/-- A TOML value.  A moment is kept as its text in standard form. -/
inductive Toml where
  | text (content : String)
  | integer (value : Int64)
  | fraction (value : Number.Binary64)
  | boolean (value : Bool)
  | moment (written : String)
  | list (items : List Toml)
  | table (origin : Toml.Origin) (fields : List (String × Toml))
  | tables (elements : List (List (String × Toml)))
  deriving Repr, Inhabited

namespace Toml

/-- The keys of a table with their values. -/
abbrev Fields := List (String × Toml)

/-- Set a key that must be new, given by its parts.  Tables on the way are created, or must
be open to such keys: implied by a header, and the last one by a key like this. -/
def define (value : Toml) : Fields → List String → Option Fields
  | _, [] => none
  | fields, [key] =>
    match fields.lookup key with
    | none => some (fields ++ [(key, value)])
    | some _ => none
  | fields, key :: next :: rest =>
    match fields.lookup key with
    | none =>
      (define value [] (next :: rest)).map fun inner =>
        Association.put key (.table .dotted inner) fields
    | some (.table .dotted known) =>
      (define value known (next :: rest)).map fun inner =>
        Association.put key (.table .dotted inner) fields
    | some (.table .implied known) =>
      if rest.isEmpty then none
      else
        (define value known (next :: rest)).map fun inner =>
          Association.put key (.table .implied inner) fields
    | some (.tables elements) =>
      if rest.isEmpty then none
      else
        (define value (elements.getLast?.getD []) (next :: rest)).map fun inner =>
          Association.put key (.tables (elements.dropLast ++ [inner])) fields
    | some _ => none

/-- Change the table at the path of a header.  Tables on the way are created, and in an
array of tables the way leads through the last element. -/
def under (change : Fields → Option Fields) : Fields → List String → Option Fields
  | fields, [] => change fields
  | fields, key :: rest =>
    match fields.lookup key with
    | none =>
      (under change [] rest).map fun inner =>
        Association.put key (.table .implied inner) fields
    | some (.table .inline _) => none
    | some (.table origin known) =>
      (under change known rest).map fun inner =>
        Association.put key (.table origin inner) fields
    | some (.tables elements) =>
      (under change (elements.getLast?.getD []) rest).map fun inner =>
        Association.put key (.tables (elements.dropLast ++ [inner])) fields
    | some _ => none

/-- Open a table for the keys after its header.  A table that was only implied so far takes
its place among the keys anew. -/
def openTable (key : String) (fields : Fields) : Option Fields :=
  match fields.lookup key with
  | none => some (fields ++ [(key, .table .header [])])
  | some (.table .implied known) =>
    some (Association.drop key fields ++ [(key, .table .header known)])
  | some _ => none

/-- Append an element to an array of tables. -/
def openElement (key : String) (fields : Fields) : Option Fields :=
  match fields.lookup key with
  | none => some (Association.put key (.tables [[]]) fields)
  | some (.tables elements) => some (Association.put key (.tables (elements ++ [[]])) fields)
  | some _ => none

end Toml

end KernelControls
