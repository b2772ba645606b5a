import KernelControls.Engine

/-!
# Commands to the engine

A command is one request to the engine, and an answer is what comes back.  A run is a
list of commands worked through in order; it is the notion over which laws about
interleaved sessions are stated.
-/

namespace KernelControls

/-- One request to the engine. -/
inductive Command where
  | listFamilies
  | listSupported
  | showFamily (family : String)
  | askSupported (family : String)
  | listMissing (family : String)
  | openSession (session family : String) (coordinator : Option CoordinatorName)
  | setLive (session control : String) (value : Int64)
  | resetSession (session : String)
  | showSession (session : String)
  | showControl (session control : String)
  | commit (session : String)
  | cancel (session : String)
  | drop (session : String)
  | countOpen (coordinator : CoordinatorName)
  | openTicket (ticket : String) (coordinator : CoordinatorName)
  | closeTicket (ticket : String) (coordinator : CoordinatorName)
  | applyDirect (family control : String) (value : Int64)
  | showSaved (family control : String)
  | showCurrent (family : String)
  | showCurrentLine (family : String)
  | writeLine (family line : String)
  | restore (focus : Option String)
  | restoreFamily (family : String)
  deriving DecidableEq, Repr

/-- What comes back from a request. -/
inductive Answer where
  | done
  | dropped
  | flag (value : Bool)
  | count (value : Nat)
  | text (value : String)
  | texts (values : List String)
  | value (value : Int64)
  | values (values : List Int64)
  | family (family : Family)
  | edit (edit : Option Edit)
  | edits (edits : List Edit)
  | closed (closing : Closing)
  | outcome (outcome : FamilyOutcome)
  | report (report : RestoreReport) (focus : Option String)
  | refused (error : EngineError)
  deriving DecidableEq, Repr

namespace Answer

/-- The answer made from a result, or the refusal. -/
def ofResult {Value : Type} (make : Value → Answer) : Except EngineError Value → Answer
  | .ok result => make result
  | .error error => refused error

/-- The answer to an ended session that reports nothing. -/
def ofDropped : Except EngineError Closing → Answer :=
  ofResult fun _ => dropped

end Answer

namespace Engine

variable {m : Type → Type} [Monad m] [NodeAccess m] [PreferenceAccess m]

/-- Work on one command. -/
def step (engine : Engine) : Command → m (Answer × Engine)
  | .listFamilies => pure (.texts engine.catalog.ids, engine)
  | .listSupported => do
    let families ← engine.supportedFamilies
    pure (.texts (families.map Family.id), engine)
  | .showFamily id => pure (.ofResult .family (engine.family id), engine)
  | .askSupported id => do
    let supported ← engine.isSupported id
    pure (.flag supported, engine)
  | .listMissing id =>
    match engine.family id with
    | .error error => pure (.refused error, engine)
    | .ok family => do
      let missing ← family.missing
      pure (.texts missing, engine)
  | .openSession session family coordinator => do
    let (result, next) ← engine.openSession session family coordinator
    pure (.ofResult .text result, next)
  | .setLive session control value => do
    let (result, next) ← engine.setLive session control value
    pure (.ofResult (fun _ => .done) result, next)
  | .resetSession session => do
    let (result, next) ← engine.resetSession session
    pure (.ofResult .texts result, next)
  | .showSession session =>
    match engine.session? session with
    | none => pure (.refused .noSession, engine)
    | some found => pure (.edits found.edits, engine)
  | .showControl session control =>
    match engine.session? session with
    | none => pure (.refused .noSession, engine)
    | some found => pure (.edit (found.edit? control), engine)
  | .commit session => do
    let (result, next) ← engine.closeSession session true
    pure (.ofResult .closed result, next)
  | .cancel session => do
    let (result, next) ← engine.closeSession session false
    pure (.ofResult .closed result, next)
  | .drop session => do
    let (result, next) ← engine.closeSession session false
    pure (.ofDropped result, next)
  | .countOpen coordinator =>
    pure (.count (engine.coordinators.openCount coordinator), engine)
  | .openTicket ticket coordinator => pure (.done, engine.openTicket ticket coordinator)
  | .closeTicket ticket coordinator =>
    let closed := engine.closeTicket ticket coordinator
    pure (.ofResult .flag closed.1, closed.2)
  | .applyDirect family control value => do
    let result ← engine.applyDirect family control value
    pure (.ofResult .flag result, engine)
  | .showSaved family control => do
    let result ← engine.savedValue family control
    pure (.ofResult .value result, engine)
  | .showCurrent family => do
    let result ← engine.currentValues family
    pure (.ofResult .values result, engine)
  | .showCurrentLine family => do
    let result ← engine.currentLine family
    pure (.ofResult .text result, engine)
  | .writeLine family line => do
    let result ← engine.writeLine family line
    pure (.ofResult .flag result, engine)
  | .restore focus => do
    let report ← engine.restore
    pure (.report report focus, engine)
  | .restoreFamily family => do
    let result ← engine.restoreFamily family
    pure (.ofResult .outcome result, engine)

/-- Work through commands in order; the answers and the engine after them. -/
def run (engine : Engine) : List Command → m (List Answer × Engine)
  | [] => pure ([], engine)
  | command :: rest => do
    let (answer, next) ← engine.step command
    let (answers, last) ← run next rest
    pure (answer :: answers, last)

end Engine

end KernelControls
