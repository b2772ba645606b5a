import KernelControls.BootRun.Arguments
import KernelControls.Catalog.Load
import KernelControls.Json.Printer
import KernelControls.Log.Filter
import KernelControls.Restore
import KernelControls.Settings.Load
import KernelControls.Site
import KernelControls.Text.Quoted

/-!
# The boot run

Once a machine has started, the boot run restores the saved value of every control.  It
loads the settings and the catalog, restores the families and writes a report for whoever
watches the machine.  Settings or definitions that cannot be loaded end it before anything
is touched, and so does a log filter with a severed directive; refused nodes and a refused
report do not end it.

## Strategy

The stages give values, and the log is made from those values afterwards: the definitions
that were read, the outcome of each family, the refusal of the report.  So what a run says
never differs from what it did.
-/

namespace KernelControls

/-- What a run left behind: its exit code and the lines it printed. -/
structure RunResult where
  exitCode : Nat
  output : List String
  errors : List String
  deriving DecidableEq, Repr

namespace BootRun

/-! ## Records of the log -/

/-- A record of the run itself. -/
def record (level : Level) (message : String) : LogRecord :=
  ⟨level, "hwtune_init", message⟩

/-- A stage has ended. -/
def stageComplete (stage : String) : LogRecord :=
  record .info ("Stage " ++ stage ++ " complete")

/-- A definition file was read. -/
def definitionRead (definition : Definition) : LogRecord :=
  ⟨.info, "hwtune_engine::family",
    "Loaded family " ++ definition.family ++ " from " ++ definition.path⟩

/-- What is said about a preference file that could not be used. -/
def troubleMessage : FileTrouble → String
  | .io cause => "IO error: " ++ cause.message
  | .malformed => "TOML parse error"

/-- The preference file was passed over. -/
def troubleRecord (path : String) (trouble : FileTrouble) : LogRecord :=
  ⟨.warn, "hwtune_config::store",
    "Ignoring unreadable preference file " ++ path ++ ": " ++ troubleMessage trouble⟩

/-- A record of the restoring. -/
def restoreRecord (level : Level) (message : String) : LogRecord :=
  ⟨level, "hwtune_engine::boot", message⟩

/-- The text of a count. -/
def countText (count : Nat) : String :=
  Decimal.text count

/-- A node refused its value. -/
def refusedWrite (failure : String × NodeError) : LogRecord :=
  restoreRecord .warn ("Failed to restore " ++ failure.1 ++ ": " ++ failure.2.message)

/-- What is said while families are restored.  The preference file is read for the first
family that is restored, so a notice about it stands before that family's records. -/
def restoreRecords (notice : List LogRecord) : List FamilyOutcome → List LogRecord
  | [] => []
  | ⟨family, .skipped _⟩ :: rest =>
    restoreRecord .info ("Skipping " ++ family ++ ": not supported by this kernel") ::
      restoreRecords notice rest
  | ⟨family, .applied written failures⟩ :: rest =>
    let restored := restoreRecord .info
      ("Restored " ++ family ++ " (" ++ countText written ++ " written, " ++
        countText failures.length ++ " failed)")
    notice ++ failures.map refusedWrite ++ restored :: restoreRecords [] rest

/-- What is said about a family at the end. -/
def outcomeRecord (entry : FamilyOutcome) : LogRecord :=
  match entry.outcome with
  | .applied written [] =>
    record .info (entry.family ++ ": restored " ++ countText written ++ " node(s)")
  | .applied written failures =>
    record .warn (entry.family ++ ": restored " ++ countText written ++ " node(s), failed " ++
      Text.quotedList (failures.map Prod.fst))
  | .skipped missing =>
    record .info (entry.family ++ ": not supported (" ++ countText missing.length ++
      " node(s) missing)")

/-- What is said about all families together. -/
def summaryRecord (report : RestoreReport) : LogRecord :=
  record .info (countText report.applied ++ " famil(ies) restored, " ++
    countText report.skipped ++ " skipped, " ++ countText report.failures ++ " failed write(s)")

/-- The report could not be written. -/
def reportRefused (reason : String) : LogRecord :=
  record .warn ("Failed to write boot sync report: " ++ reason)

/-! ## Failures -/

/-- The lines of one cause, with its number if there are more. -/
def causeLines (number : Option Nat) (cause : String) : List String :=
  let lines := (cause.toList.splitOn '\n').map String.ofList
  match number, lines with
  | _, [] => []
  | none, lines => lines.map ("    " ++ ·)
  | some number, first :: rest =>
    ("    " ++ countText number ++ ": " ++ first) :: rest.map ("       " ++ ·)

/-- The lines that tell what failed, and why, from the outermost cause to the innermost. -/
def failureLines (failed : String) (causes : List String) : List String :=
  let numbered := causes.mapIdx fun index cause =>
    causeLines (if causes.length ≤ 1 then none else some index) cause
  ("Error: " ++ failed) :: "" :: "Caused by:" :: numbered.flatten

/-- The causes for which settings are refused. -/
def refusalCauses (refusal : Settings.Refusal) : List String :=
  match refusal with
  | .malformed => [refusal.message, "malformed layer"]
  | _ => [refusal.message]

/-- The causes for which a catalog cannot be loaded. -/
def loadCauses : LoadError → List String
  | .io cause => ["IO error: " ++ cause.message, cause.message]
  | .malformed path => ["Invalid control family " ++ path ++ ": TOML parse error"]
  | .invalid invalid => [invalid.message]

/-! ## Results -/

/-- The exit code of a run that failed. -/
def failureCode : Nat := 1

/-- The exit code of a run with wrong arguments. -/
def usageCode : Nat := 2

/-- The exit code of a run that broke off. -/
def abortCode : Nat := 101

/-- The version of the program. -/
def version : String := "hwtune-init 0.1.0"

/-- How the program is called. -/
def usage : String := "Usage: hwtune-init [--config <PATH>]"

/-- The lines of the records that pass a filter. -/
def logLines (filter : LogFilter) (records : List LogRecord) : List String :=
  (records.filter filter.passes).map LogRecord.line

/-! ## The run -/

variable {m : Type → Type} [Monad m] [FileSystem m]

/-- Write the report, with the directories above it; the reason if it could not be written. -/
def writeReport (path : String) (report : RestoreReport) : m (Option String) := do
  let made ←
    match Path.parent? path with
    | some parent => FileSystem.makeDirectories parent
    | none => pure (.ok ())
  match made with
  | .error cause => pure (some cause.message)
  | .ok () =>
    match ← FileSystem.write path report.toForm.pretty with
    | .ok () => pure none
    | .error cause => pure (some ("Failed to write " ++ path ++ ": " ++ cause.message))

/-- Restore the families of a catalog: the report, and the trouble with the preference file. -/
def restoreSite (settings : Settings) (catalog : Catalog) :
    m (RestoreReport × Option FileTrouble) := do
  let opening : Opening := 0
  let (report, site) ←
    (restoreAll (m := StateT Site m) opening catalog.families).run
      (Site.start settings.nodeRoot settings.storePath)
  pure (report, site.trouble? opening)

/-- The run with its settings, and with notes that were made before it. -/
def runWith (settings : Settings) (filter : LogFilter) (notes : List String) :
    m RunResult := do
  let (definitions, loaded) ← Catalog.load settings.familiesDirectory
  let begun := record .info "hwtune boot sync starting..." :: definitions.map definitionRead
  match loaded with
  | .error error =>
    let failed := "Failed to load control families from " ++ settings.familiesDirectory
    pure ⟨failureCode, logLines filter begun, notes ++ failureLines failed (loadCauses error)⟩
  | .ok catalog => do
    let (report, trouble) ← restoreSite settings catalog
    let refused ← writeReport settings.reportPath report
    let notice := trouble.toList.map (troubleRecord settings.storePath)
    let records :=
      begun ++ stageComplete "catalog" :: restoreRecords notice report.families ++
        report.families.map outcomeRecord ++ summaryRecord report :: stageComplete "sync" ::
        refused.toList.map reportRefused ++
        [stageComplete "report", record .info "Boot sync complete"]
    pure ⟨0, logLines filter records, notes⟩

/-- The variable that asks for a log filter. -/
def filterVariable : String := "RUST_LOG"

/-- The boot run with the given arguments and environment variables. -/
def run (arguments : List String) (environment : List (String × String)) : m RunResult :=
  match BootRequest.ofArguments arguments with
  | .refuse => pure ⟨usageCode, [], [usage]⟩
  | .showVersion => pure ⟨0, [version], []⟩
  | .showUsage => pure ⟨0, [usage], []⟩
  | .run path => do
    match ← Settings.load environment path with
    | .error refusal =>
      pure ⟨failureCode, [],
        failureLines "Failed to load configuration" (refusalCauses refusal)⟩
    | .ok settings =>
      match LogFilter.choose? (environment.lookup filterVariable) settings.logFilter with
      | some (filter, notes) => runWith settings filter notes
      | none => pure ⟨abortCode, [], []⟩

end BootRun

end KernelControls
