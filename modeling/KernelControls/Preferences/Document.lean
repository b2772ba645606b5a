import KernelControls.Decimal
import KernelControls.Preferences
import KernelControls.Toml.Reader

/-!
# The document form of preferences

Preferences are kept as a TOML document with one table, `values`, that maps each key to
its whole number.  The entries stand in ascending order of the keys, each on its line.

## Strategy

Writing is a line per entry below a fixed header.  Reading takes any document whose table
`values`, however it is spelled, holds nothing but whole numbers; other keys beside it are
ignored, and without it there are no preferences.
-/

namespace KernelControls.Preferences

/-! ## Writing -/

/-- The line of an entry. -/
def entryLine (entry : String × Int64) : List Char :=
  Toml.writeKey entry.1 ++ [' ', '=', ' '] ++ Decimal.write entry.2.toInt ++ ['\n']

/-- The document that holds preferences. -/
def document (preferences : Preferences) : String :=
  String.ofList ("[values]\n".toList ++ preferences.entries.flatMap entryLine)

/-! ## Reading -/

/-- The entry of a field that holds a whole number. -/
def entryOf? (field : String × Toml) : Option (String × Int64) :=
  match field.2 with
  | .integer value => some (field.1, value)
  | _ => none

/-- The preferences that a document holds. -/
def ofDocument? (text : String) : Option Preferences := do
  match (← Toml.read? text).lookup "values" with
  | none => some empty
  | some (.table _ fields) => (fields.mapM entryOf?).map ofList
  | some _ => none

example : document (ofList [("/b", -1), ("a", 2)]) = "[values]\n\"/b\" = -1\na = 2\n" := by
  decide +kernel

example : ofDocument? "values.'/b' = -0b1" = none := by decide +kernel

end KernelControls.Preferences
