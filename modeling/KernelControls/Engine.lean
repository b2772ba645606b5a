import KernelControls.Catalog
import KernelControls.Family.Values
import KernelControls.Restore
import KernelControls.Session

/-!
# The engine

The engine puts the parts together: a catalog, the coordinators' counts, the open
sessions by name, tickets held outside any session, and the opening of the preference
store that new requests use.

## Strategy

Every operation takes an engine and gives the engine after it, inside whatever gives
access to nodes and preferences.  Checks come in a fixed order before anything is
touched: the family is known, it has the right mode, the control is known, the family
is supported.
-/

namespace KernelControls

/-- The state of the engine beside nodes and preferences. -/
structure Engine where
  catalog : Catalog
  opening : Opening
  coordinators : Coordinators
  sessions : List (String × Session)
  tickets : List (String × Ticket)

namespace Engine

/-- An engine without sessions. -/
def start (catalog : Catalog) (opening : Opening) : Engine where
  catalog := catalog
  opening := opening
  coordinators := .idle
  sessions := []
  tickets := []

/-- The engine after the preference store was opened anew.  Sessions that are open keep the
opening they started with. -/
def restart (engine : Engine) (catalog : Catalog) (opening : Opening) : Engine :=
  { engine with catalog := catalog, opening := opening }

/-! ## Families -/

/-- The family of an id. -/
def family (engine : Engine) (id : String) : Except EngineError Family :=
  match engine.catalog.get? id with
  | some family => .ok family
  | none => .error (.unknownFamily id)

/-- A control of a family. -/
def control (family : Family) (name : String) : Except EngineError Control :=
  match family.control? name with
  | some control => .ok control
  | none => .error (.unknownControl family.id name)

/-- Refuse a family of another mode. -/
def requireMode (family : Family) (mode : Mode) : Except EngineError Unit :=
  if family.mode = mode then .ok () else .error (.wrongMode family.id family.mode)

section Nodes

variable {m : Type → Type} [Monad m] [NodeAccess m]

/-- Whether a family is known and supported. -/
def isSupported (engine : Engine) (id : String) : m Bool :=
  match engine.catalog.get? id with
  | some family => family.isSupported
  | none => pure false

/-- The supported ones among families, in order. -/
def supportedAmong : List Family → m (List Family)
  | [] => pure []
  | family :: rest => do
    let supported ← family.isSupported
    let others ← supportedAmong rest
    pure (if supported then family :: others else others)

/-- The supported families in catalog order. -/
def supportedFamilies (engine : Engine) : m (List Family) :=
  supportedAmong engine.catalog.families

/-- The values that a family's nodes hold. -/
def currentValues (engine : Engine) (id : String) : m (Except EngineError (List Int64)) :=
  match engine.family id with
  | .error error => pure (.error error)
  | .ok family => readValues family.controls

/-- The values that a family's nodes hold, as a line. -/
def currentLine (engine : Engine) (id : String) : m (Except EngineError String) := do
  let values ← engine.currentValues id
  pure (values.map lineOfValues)

/-- Write a line of values to a family's nodes. -/
def writeLine (engine : Engine) (id line : String) : m (Except EngineError Bool) :=
  match engine.family id with
  | .error error => pure (.error error)
  | .ok family => do
    let written ← family.writeLine line
    pure (.ok written)

end Nodes

/-! ## Coordinators and tickets -/

/-- Take a ticket from a coordinator and keep it under a name. -/
def openTicket (engine : Engine) (ticket : String) (coordinator : CoordinatorName) : Engine :=
  let issued := engine.coordinators.issue coordinator
  { engine with
    coordinators := issued.2
    tickets := Association.put ticket issued.1 engine.tickets }

/-- Give a ticket to a coordinator, which need not be its issuer; whether it was the last. -/
def closeTicket (engine : Engine) (ticket : String) (coordinator : CoordinatorName) :
    Except EngineError Bool × Engine :=
  match engine.tickets.lookup ticket with
  | none => (.error .noTicket, engine)
  | some held =>
    let closed := engine.coordinators.close coordinator held
    (.ok closed.1, { engine with
      coordinators := closed.2
      tickets := Association.drop ticket engine.tickets })

/-! ## Sessions and saved values -/

/-- The open session of a name. -/
def session? (engine : Engine) (name : String) : Option Session :=
  engine.sessions.lookup name

/-- Replace the session of a name. -/
def putSession (engine : Engine) (name : String) (session : Session) : Engine :=
  { engine with sessions := Association.put name session engine.sessions }

variable {m : Type → Type} [Monad m] [NodeAccess m] [PreferenceAccess m]

/-- The saved value of a control, or its default. -/
def savedValue (engine : Engine) (id name : String) : m (Except EngineError Int64) :=
  match engine.family id >>= fun family => control family name with
  | .error error => pure (.error error)
  | .ok control => do
    let value ← control.saved engine.opening
    pure (.ok value)

/-- Open a session under a name.  Without a coordinator it is counted by the shared one of
the family's editor.  A refused opening counts nowhere. -/
def openSession (engine : Engine) (name id : String) (coordinator : Option CoordinatorName) :
    m (Except EngineError String × Engine) :=
  if (engine.session? name).isSome then pure (.error .sessionInUse, engine)
  else
    match engine.family id with
    | .error error => pure (.error error, engine)
    | .ok family =>
      match requireMode family .session with
      | .error error => pure (.error error, engine)
      | .ok () => do
        if ← family.isSupported then
          let counted := coordinator.getD (.shared id)
          let issued := engine.coordinators.issue counted
          let edits ← captureEdits engine.opening family.controls
          let session : Session :=
            { family := family.id
              opening := engine.opening
              coordinator := counted
              ticket := issued.1
              edits := edits }
          pure (.ok family.id,
            { engine with
              coordinators := issued.2
              sessions := Association.put name session engine.sessions })
        else pure (.error (.unsupported id), engine)

/-- Preview a value on a control of a session.  The preview stands even if the node refuses
the write. -/
def setLive (engine : Engine) (name control : String) (value : Int64) :
    m (Except EngineError Unit × Engine) :=
  match engine.session? name with
  | none => pure (.error .noSession, engine)
  | some session =>
    match session.edit? control with
    | none => pure (.error (.unknownControl session.family control), engine)
    | some edit => do
      let previewed := engine.putSession name (session.preview control value)
      match ← (edit.preview value).writeCurrent with
      | .ok () => pure (.ok (), previewed)
      | .error error => pure (.error (.node error), previewed)

/-- Preview every default of a session; the names of the refused controls. -/
def resetSession (engine : Engine) (name : String) :
    m (Except EngineError (List String) × Engine) :=
  match engine.session? name with
  | none => pure (.error .noSession, engine)
  | some session => do
    let (failed, defaults) ← session.reset
    pure (.ok failed, engine.putSession name defaults)

/-- End a session.  Its ticket is given back first, so the last one out may restore. -/
def closeSession (engine : Engine) (name : String) (accepted : Bool) :
    m (Except EngineError Closing × Engine) :=
  match engine.session? name with
  | none => pure (.error .noSession, engine)
  | some session => do
    let closed := engine.coordinators.close session.coordinator session.ticket
    let closing ← session.finish accepted closed.1
    pure (.ok closing,
      { engine with
        coordinators := closed.2
        sessions := Association.drop name engine.sessions })

/-! ## Direct settings -/

/-- Set one control of a direct family: first its node, then the preferences.  The answer
is whether the node took the value; if it did not, the next restoring tries again. -/
def applyDirect (engine : Engine) (id name : String) (value : Int64) :
    m (Except EngineError Bool) :=
  let found : Except EngineError (Family × Control) := do
    let family ← engine.family id
    requireMode family .direct
    let control ← control family name
    pure (family, control)
  match found with
  | .error error => pure (.error error)
  | .ok (family, control) => do
    if ← family.isSupported then
      let written ← control.write value
      match ← PreferenceAccess.save engine.opening control.key value with
      | .error error => pure (.error (.store error))
      | .ok () => pure (.ok written.isOk)
    else pure (.error (.unsupported family.id))

/-! ## Restoring -/

/-- Restore every family of the catalog. -/
def restore (engine : Engine) : m RestoreReport :=
  restoreAll engine.opening engine.catalog.families

/-- Restore one family. -/
def restoreFamily (engine : Engine) (id : String) : m (Except EngineError FamilyOutcome) :=
  match engine.family id with
  | .error error => pure (.error error)
  | .ok family => do
    let outcome ← family.restore engine.opening
    pure (.ok outcome)

end Engine

end KernelControls
