import KernelControls.Decimal
import KernelControls.Json.Basic
import KernelControls.Number.Positional
import KernelControls.Settings
import KernelControls.Toml.Basic

/-!
# Layers of settings

Settings come in layers: a file, and above it the environment.  A layer gives values to
names, without regard to case, and the upper layer wins for each name by itself.

## Strategy

A setting is a text, so a number or a flag in a file counts as its text, and a list or a
record is unusable.  A key may also be an expression that leads into a value, such as `a.b`
or `a[0]`; what it leads into is then a record or a list, whatever else is said about it.
-/

namespace KernelControls

/-- What a layer gives to a name. -/
inductive LayerValue where
  | text (content : String)
  | unusable
  deriving DecidableEq, Repr

/-- The values that a layer gives, in order; of two for one name the later counts. -/
structure Layer where
  entries : List (String × LayerValue)
  deriving Repr

namespace Layer

/-! ## Keys -/

/-- Whether a character may stand in a name within an expression. -/
def isNaming (character : Char) : Bool :=
  character.isAlphanum || character == ' ' || character == '_' || character == '-'

/-- Whether a character is a blank within a line. -/
def isSpacing (character : Char) : Bool :=
  character == ' ' || character == '\t'

/-- Strip an index in brackets from the front: a whole number that fits a signed word, with
blanks around it. -/
def index? (characters : List Char) : Option (List Char) := do
  let inner := characters.dropWhile isSpacing
  let (negative, unsigned) :=
    match inner with
    | '-' :: rest => (true, rest)
    | rest => (false, rest)
  let magnitude ← Decimal.readDigits? (unsigned.takeWhile Char.isDigit)
  let _ ← Decimal.toWord? (if negative then -(magnitude : Int) else magnitude)
  match (unsigned.dropWhile Char.isDigit).dropWhile isSpacing with
  | ']' :: rest => some rest
  | _ => none

/-- Whether the rest of an expression leads into what comes before it, in as many steps as
the fuel allows. -/
def leadsInside : Nat → List Char → Bool
  | _, [] => true
  | 0, _ => false
  | fuel + 1, '.' :: rest =>
    !(rest.takeWhile isNaming).isEmpty && leadsInside fuel (rest.dropWhile isNaming)
  | fuel + 1, '[' :: rest =>
    match index? rest with
    | some rest => leadsInside fuel rest
    | none => false
  | _, _ => false

/-- What a key and its value say: the key names the value, or leads into what it names. -/
def entry (key : String) (value : LayerValue) : String × LayerValue :=
  let characters := key.toList.map Char.toLower
  let name := characters.takeWhile isNaming
  let rest := characters.dropWhile isNaming
  if !name.isEmpty && !rest.isEmpty && leadsInside rest.length rest then
    (String.ofList name, .unusable)
  else (String.ofList characters, value)

/-! ## The layers -/

/-- The value of a TOML field. -/
def ofToml : Toml → LayerValue
  | .text content => .text content
  | .integer value => .text (Decimal.text value.toInt)
  | .fraction value => .text (Number.Positional.text value)
  | .boolean value => .text (if value then "true" else "false")
  | .moment written => .text written
  | .list _ => .unusable
  | .table _ _ => .unusable
  | .tables _ => .unusable

/-- The value of a JSON field.  A whole number beyond a signed word is taken as the nearest
fraction. -/
def ofJson : Json → LayerValue
  | .text content => .text content
  | .integer value =>
    match Decimal.toWord? value with
    | some word => .text (Decimal.text word.toInt)
    | none => .text (Number.Positional.text (.nearest (value < 0) value.natAbs 1))
  | .fraction value => .text (Number.Positional.text value)
  | .boolean value => .text (if value then "true" else "false")
  | .null => .unusable
  | .list _ => .unusable
  | .record _ => .unusable

/-- The layer of a TOML document. -/
def ofTomlFields (fields : Toml.Fields) : Layer :=
  ⟨fields.map fun field => entry field.1 (ofToml field.2)⟩

/-- The layer of a JSON document. -/
def ofJsonFields (fields : List (String × Json)) : Layer :=
  ⟨fields.map fun field => entry field.1 (ofJson field.2)⟩

/-- What the names of variables for settings start with. -/
def variablePrefix : String := "hwtune_"

/-- The small form of a character in a variable's name.  Beside the capital letters of ASCII
the sign of the unit kelvin has a small form in ASCII; what else there is stands in no name
of a setting. -/
def smallLetter (character : Char) : Char :=
  if character == '\u212a' then 'k' else character.toLower

/-- The layer of environment variables. -/
def ofEnvironment (environment : List (String × String)) : Layer :=
  ⟨environment.filterMap fun (name, content) =>
    let small := name.toList.map smallLetter
    if variablePrefix.toList.isPrefixOf small then
      let key := String.ofList (small.drop variablePrefix.length)
      some (entry key (.text content))
    else none⟩

example : index? "\t-1 ].a".toList = some ".a".toList := by decide +kernel

example : index? "9223372036854775808]".toList = none := by decide +kernel

/-- What a layer gives to a name. -/
def value? (layer : Layer) (name : String) : Option LayerValue :=
  layer.entries.reverse.lookup name

end Layer

/-! ## Settings from layers -/

namespace Settings

/-- The value of a setting: the upper layer's, else the lower one's, else the default. -/
def layered (lower upper : Layer) (setting : Setting) : LayerValue :=
  ((upper.value? setting.name).or (lower.value? setting.name)).getD (.text setting.default)

/-- The settings of two layers, if every value is a text. -/
def ofLayers? (lower upper : Layer) : Option Settings := do
  let text? (setting : Setting) : Option String :=
    match layered lower upper setting with
    | .text content => some content
    | .unusable => none
  some
    { nodeRoot := ← text? .nodeRoot
      storePath := ← text? .storePath
      familiesDirectory := ← text? .familiesDirectory
      reportPath := ← text? .reportPath
      logFilter := ← text? .logFilter }

end Settings

end KernelControls
