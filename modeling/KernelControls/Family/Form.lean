import KernelControls.Family
import KernelControls.Json.Basic

/-!
# The document form of families

Families are read from definition files and from requests, and written into answers.
The form is a JSON value; a definition file is brought into it first.  A record is
read by the names of its fields, and fields it does not know are ignored.  It may also be
given as the list of its fields in their fixed order.

## Strategy

`parts?` brings both ways of giving a record to one list of optional parts, so that each
reader says only which parts are required.  The formats of documents differ in two
places, gathered in `Dialect`: what a variant without content carries, and whether a list
may be longer than its record.
-/

namespace KernelControls

/-- What the document formats do differently. -/
structure Dialect where
  /-- Whether items of a list beyond the last field of the record are ignored. -/
  ignoresSurplus : Bool
  /-- Whether a value is the content of a variant without content. -/
  isUnit : Json → Bool

namespace Dialect

/-- Requests and answers. -/
def request : Dialect where
  ignoresSurplus := false
  isUnit
    | .null => true
    | _ => false

/-- Definition files. -/
def definition : Dialect where
  ignoresSurplus := true
  isUnit
    | .list [] => true
    | .record [] => true
    | _ => false

end Dialect

namespace Form

/-- The parts of a record for the given fields, where a part may be absent. -/
def parts? (dialect : Dialect) (names : List String) : Json → Option (List (Option Json))
  | .record fields => some (names.map fun name => fields.lookup name)
  | .list items =>
    if names.length < items.length && !dialect.ignoresSurplus then none
    else some (names.mapIdx fun index _ => items[index]?)
  | _ => none

/-- A 64-bit number. -/
def word? : Json → Option Int64
  | .integer number => Decimal.toWord? number
  | _ => none

/-- An optional part: its default where it is absent. -/
def orDefault {Value : Type} (read? : Json → Option Value) (default : Value) :
    Option Json → Option Value
  | none => some default
  | some part => read? part

end Form

/-! ## Codecs -/

/-- A codec's form: a record with its kind and, for `linear`, its factor. -/
def Codec.toForm : Codec → Json
  | identity => .record [("kind", .text "identity")]
  | linear factor => .record [("kind", .text "linear"), ("factor", .integer factor.toInt)]
  | signedOffset => .record [("kind", .text "signed_offset")]

/-- Read a codec.  As a list it is the kind followed by the factor, and nothing more. -/
def Codec.ofForm? : Json → Option Codec
  | .record fields => do
    let kind ← (← fields.lookup "kind").text?
    match kind with
    | "identity" => some .identity
    | "linear" => (← fields.lookup "factor") |> Form.word? |>.map .linear
    | "signed_offset" => some .signedOffset
    | _ => none
  | .list [.text "identity"] => some .identity
  | .list [.text "linear", factor] => (Form.word? factor).map .linear
  | .list [.text "signed_offset"] => some .signedOffset
  | _ => none

/-! ## Modes -/

/-- A mode's form is its name. -/
def Mode.toForm : Mode → Json
  | session => .text "session"
  | direct => .text "direct"

/-- The mode of a name. -/
def Mode.ofName? : String → Option Mode
  | "session" => some .session
  | "direct" => some .direct
  | _ => none

/-- Read a mode: its name, or a record whose only field has that name and no content. -/
def Mode.ofForm? (dialect : Dialect) : Json → Option Mode
  | .text name => Mode.ofName? name
  | .record [(name, content)] => if dialect.isUnit content then Mode.ofName? name else none
  | _ => none

/-! ## Controls -/

/-- A control's form. -/
def Control.toForm (control : Control) : Json :=
  .record [("name", .text control.name), ("path", .text control.path),
    ("codec", control.codec.toForm), ("min", .integer control.minimum.toInt),
    ("max", .integer control.maximum.toInt), ("default", .integer control.default.toInt)]

/-- The fields of a control, in order. -/
def Control.fields : List String :=
  ["name", "path", "codec", "min", "max", "default"]

/-- Read a control; the codec and the least value may be absent. -/
def Control.ofForm? (dialect : Dialect) (form : Json) : Option Control := do
  match ← Form.parts? dialect Control.fields form with
  | [name, path, codec, minimum, maximum, default] =>
    some
      { name := ← (← name).text?
        path := ← (← path).text?
        codec := ← Form.orDefault Codec.ofForm? .identity codec
        minimum := ← Form.orDefault Form.word? 0 minimum
        maximum := ← Form.word? (← maximum)
        default := ← Form.word? (← default) }
  | _ => none

/-! ## Families -/

/-- A family's form. -/
def Family.toForm (family : Family) : Json :=
  .record [("id", .text family.id), ("name", .text family.name), ("mode", family.mode.toForm),
    ("controls", .list (family.controls.map Control.toForm))]

/-- The fields of a family, in order. -/
def Family.fields : List String :=
  ["id", "name", "mode", "controls"]

/-- Read a family; the mode may be absent. -/
def Family.ofForm? (dialect : Dialect) (form : Json) : Option Family := do
  match ← Form.parts? dialect Family.fields form with
  | [id, name, mode, controls] =>
    some
      { id := ← (← id).text?
        name := ← (← name).text?
        mode := ← Form.orDefault (Mode.ofForm? dialect) .session mode
        controls := ← (← (← controls).list?).mapM (Control.ofForm? dialect) }
  | _ => none

end KernelControls
