import KernelControls.Association
import KernelControls.Number.Binary64

/-!
# JSON values

Families, requests and reports have a JSON form.  Whole numbers are kept apart from
fractions, because a control value must be written as a whole number.  A record keeps its
fields in the order in which they first appeared; a repeated field keeps its place and
takes the later value.
-/

namespace KernelControls

/-- A JSON value. -/
inductive Json where
  | null
  | boolean (value : Bool)
  | integer (value : Int)
  | fraction (value : Number.Binary64)
  | text (value : String)
  | list (items : List Json)
  | record (fields : List (String × Json))
  deriving Repr, Inhabited

namespace Json

/-- The record of the given fields; a later field replaces an earlier one of its name. -/
def ofFields (fields : List (String × Json)) : Json :=
  .record (fields.foldl (fun known field => Association.put field.1 field.2 known) [])

/-- The value of a field, for records that have it. -/
def field? (value : Json) (name : String) : Option Json :=
  match value with
  | record fields => fields.lookup name
  | _ => none

/-- The characters of a text. -/
def text? : Json → Option String
  | text value => some value
  | _ => none

/-- The items of a list. -/
def list? : Json → Option (List Json)
  | list items => some items
  | _ => none

/-- A list of texts. -/
def ofTexts (texts : List String) : Json :=
  .list (texts.map .text)

end Json

end KernelControls
