import KernelControls.Json.Basic
import KernelControls.Toml.Basic

/-!
# The document form of TOML values

Typed readers take the JSON form of a document, so a TOML value is brought into it.  A
moment has no counterpart there and becomes `null`, which no typed reader accepts.
-/

namespace KernelControls.Toml

mutual

/-- The JSON form of a value. -/
def toForm : Toml → Json
  | .text content => .text content
  | .integer value => .integer value.toInt
  | .fraction value => .fraction value
  | .boolean value => .boolean value
  | .moment _ => .null
  | .list items => .list (listForm items)
  | .table _ fields => .record (fieldsForm fields)
  | .tables elements => .list (elementsForm elements)

/-- The JSON forms of items. -/
def listForm : List Toml → List Json
  | [] => []
  | item :: rest => item.toForm :: listForm rest

/-- The JSON form of a table's fields. -/
def fieldsForm : List (String × Toml) → List (String × Json)
  | [] => []
  | (key, value) :: rest => (key, value.toForm) :: fieldsForm rest

/-- The JSON forms of an array of tables. -/
def elementsForm : List (List (String × Toml)) → List Json
  | [] => []
  | fields :: rest => .record (fieldsForm fields) :: elementsForm rest

end

end KernelControls.Toml
