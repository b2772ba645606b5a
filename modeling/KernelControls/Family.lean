import KernelControls.Codec
import KernelControls.Path

/-!
# Controls and families

A control is one kernel node with a codec, a range and a default.  A family is a set of
controls that belong together: they are offered together, edited together and restored
together.  Its mode says how it is edited, in sessions with a preview or directly.

## Strategy

A family may come from a definition file, so it can be wrong in many ways.  `fault?`
names the first fault in a fixed order: the family's own faults, then the controls in
order, and within one control its name, path, range, default, factor, and last a name
that an earlier control bears already.
-/

namespace KernelControls

/-- One tunable kernel node. -/
structure Control where
  name : String
  path : String
  codec : Codec := .identity
  minimum : Int64 := 0
  maximum : Int64
  default : Int64
  deriving DecidableEq, Repr

namespace Control

/-- The key of the control's preference is the exact text of its path. -/
def key (control : Control) : String :=
  control.path

/-- Whether a value lies in the control's range. -/
def contains (control : Control) (value : Int64) : Bool :=
  control.minimum ≤ value && value ≤ control.maximum

/-- Whether two controls differ in nothing but the spelling of their paths. -/
def Same (left right : Control) : Prop :=
  { left with path := right.path } = right ∧ Path.Same left.path right.path

instance (left right : Control) : Decidable (Same left right) :=
  inferInstanceAs (Decidable (_ ∧ _))

end Control

/-- How a family is edited. -/
inductive Mode where
  | session
  | direct
  deriving DecidableEq, Repr

/-- The word for a mode in messages. -/
def Mode.title : Mode → String
  | session => "Session"
  | direct => "Direct"

/-- Controls that belong together. -/
structure Family where
  id : String
  name : String
  mode : Mode := .session
  controls : List Control
  deriving DecidableEq, Repr

namespace Family

/-- The first control of the given name. -/
def control? (family : Family) (name : String) : Option Control :=
  family.controls.find? fun control => control.name = name

/-- Whether two families differ in nothing but the spelling of their controls' paths. -/
def Same (left right : Family) : Prop :=
  { left with controls := right.controls } = right ∧
    left.controls.length = right.controls.length ∧
      ∀ pair ∈ left.controls.zip right.controls, pair.1.Same pair.2

instance (left right : Family) : Decidable (Same left right) :=
  inferInstanceAs (Decidable (_ ∧ _ ∧ _))

/-! ## Faults -/

/-- What can be wrong with a family. -/
inductive Fault where
  | missingId
  | noControls
  | unnamedControl
  | relativePath (control path : String)
  | emptyRange (control : String) (minimum maximum : Int64)
  | defaultOutside (control : String) (default minimum maximum : Int64)
  | factorBelowOne (control : String) (factor : Int64)
  | duplicateControl (control : String)
  deriving DecidableEq, Repr

/-- What is said about a fault. -/
def Fault.message : Fault → String
  | missingId => "missing id"
  | noControls => "no controls"
  | unnamedControl => "control without a name"
  | relativePath control path => control ++ ": node path " ++ path ++ " is not absolute"
  | emptyRange control minimum maximum =>
    control ++ ": min " ++ Decimal.text minimum.toInt ++ " > max " ++ Decimal.text maximum.toInt
  | defaultOutside control default minimum maximum =>
    control ++ ": default " ++ Decimal.text default.toInt ++ " outside [" ++
      Decimal.text minimum.toInt ++ ", " ++ Decimal.text maximum.toInt ++ "]"
  | factorBelowOne control factor =>
    control ++ ": linear factor " ++ Decimal.text factor.toInt ++ " < 1"
  | duplicateControl control => "duplicate control " ++ control

end Family

/-- The first fault of a control by itself. -/
def Control.fault? (control : Control) : Option Family.Fault :=
  if control.name.isEmpty then some .unnamedControl
  else if !Path.isAbsolute control.path then some (.relativePath control.name control.path)
  else if control.maximum < control.minimum then
    some (.emptyRange control.name control.minimum control.maximum)
  else if !control.contains control.default then
    some (.defaultOutside control.name control.default control.minimum control.maximum)
  else
    match control.codec with
    | .linear factor => if factor < 1 then some (.factorBelowOne control.name factor) else none
    | .identity | .signedOffset => none

namespace Family

/-- The first fault of controls that follow controls of the given names. -/
def controlsFault? (earlier : List String) : List Control → Option Fault
  | [] => none
  | control :: rest =>
    match control.fault? with
    | some fault => some fault
    | none =>
      if control.name ∈ earlier then some (.duplicateControl control.name)
      else controlsFault? (control.name :: earlier) rest

/-- The first fault of a family, if it has one. -/
def fault? (family : Family) : Option Fault :=
  if family.id.isEmpty then some .missingId
  else if family.controls.isEmpty then some .noControls
  else controlsFault? [] family.controls

/-- What a message calls the family: its id, or its display name where it has no id. -/
def label (family : Family) : String :=
  if family.id.isEmpty then family.name else family.id

/-- A family with a fault, as it is reported. -/
structure Invalid where
  family : String
  fault : Fault
  deriving DecidableEq, Repr

/-- What is said about a family with a fault. -/
def Invalid.message (invalid : Invalid) : String :=
  "Invalid control family " ++ invalid.family ++ ": " ++ invalid.fault.message

/-- Refuse a family with a fault. -/
def validate (family : Family) : Except Invalid Unit :=
  match family.fault? with
  | some fault => .error ⟨family.label, fault⟩
  | none => .ok ()

end Family

end KernelControls
