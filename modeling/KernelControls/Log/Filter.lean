import KernelControls.Log
import KernelControls.Log.Directive

/-!
# Filters of log records

A filter is a list of directives separated by commas.  One that the environment asks for must
be right as a whole, or the settings decide; in one of the settings directives that are wrong
are noted and passed over.

## Strategy

Of the directives whose target begins a record's target the one with the longest target
decides, and of those the one that names more fields, and of equal ones the last.  A
directive for the inside of named spans decides nothing, because the records stand in none;
one that names a field is about records with that field, and they have only `message`.
-/

namespace KernelControls

namespace LogDirective

/-! ## Choosing -/

/-- Whether a directive is about the records of a target. -/
def isAbout (directive : LogDirective) (target : String) : Bool :=
  !directive.isScoped && directive.field.all (· == "message") &&
    match directive.target with
    | none => true
    | some start => start.toList.isPrefixOf target.toList

/-- How specific a directive is: its target counts more than its field. -/
def weight (directive : LogDirective) : Nat :=
  let ofTarget :=
    match directive.target with
    | none => 0
    | some start => start.utf8ByteSize + 1
  2 * ofTarget + (if directive.field.isSome then 1 else 0)

/-- The more specific of two directives; of equal ones the second. -/
def moreSpecific (first second : LogDirective) : LogDirective :=
  if second.weight < first.weight then first else second

end LogDirective

/-! ## Filters -/

/-- A filter of log records. -/
structure LogFilter where
  directives : List LogDirective
  deriving DecidableEq, Repr

namespace LogFilter

/-- The texts of a filter's directives. -/
def parts (text : String) : List String :=
  ((text.toList.splitOn ',').filter fun part => !part.isEmpty).map String.ofList

/-- Read a filter that must be right as a whole; the first failure counts. -/
def read (text : String) : Except LogDirective.Failure LogFilter :=
  ((parts text).mapM LogDirective.read).map LogFilter.mk

/-- What is noted about a directive that is passed over. -/
def note (part : String) (fault : LogDirective.Fault) : String :=
  "ignoring `" ++ part ++ "`: " ++ fault.message

/-- Read directives and pass over those that are wrong: the others, and a note on each that was
passed over.  Nothing is read if one of them is severed. -/
def readParts? : List String → Option (List LogDirective × List String)
  | [] => some ([], [])
  | part :: rest => do
    let (directives, notes) ← readParts? rest
    match LogDirective.read part with
    | .ok directive => some (directive :: directives, notes)
    | .error (.faulty fault) => some (directives, note part fault :: notes)
    | .error .severed => none

/-- Read a filter and pass over directives that are wrong; the filter, and the notes. -/
def readLossily? (text : String) : Option (LogFilter × List String) :=
  (readParts? (parts text)).map fun (directives, notes) => (⟨directives⟩, notes)

/-- The filter of a run, and what is noted about it: what the environment asks for if it is
right, else what the settings ask for.  There is none if a directive is severed. -/
def choose? (requested : Option String) (configured : String) :
    Option (LogFilter × List String) :=
  match requested.map read with
  | some (.ok filter) => some (filter, [])
  | some (.error .severed) => none
  | _ => readLossily? configured

/-- The greatest verbosity that passes for a target; without a directive about it no record
of interest does. -/
def verbosity (filter : LogFilter) (target : String) : Nat :=
  match filter.directives.filter fun directive => directive.isAbout target with
  | [] => 0
  | first :: rest => (rest.foldl LogDirective.moreSpecific first).verbosity

/-- Whether a record passes. -/
def passes (filter : LogFilter) (record : LogRecord) : Bool :=
  record.level.verbosity ≤ filter.verbosity record.target

example : ((choose? none "info,hwtune_engine=warn").map fun chosen =>
    chosen.1.verbosity "hwtune_engine::boot") = some 2 := by
  decide +kernel

example : (read "info,=").isOk = false := by decide +kernel

end LogFilter

end KernelControls
