/-!
# Arguments of the boot run

The run takes at most one option, the path of the settings file, and can show its version
or its usage instead.  Arguments are worked through from left to right; the first that is
wrong, or that asks for version or usage, decides.

## Strategy

A value is not accepted at once: `Progress` says what was given so far, and a given value is
checked as soon as another option or the end follows.  So a second value is refused before
a later request for the version is seen.
-/

namespace KernelControls

/-- What the arguments ask for. -/
inductive BootRequest where
  | run (settingsPath : Option String)
  | showVersion
  | showUsage
  | refuse
  deriving DecidableEq, Repr

namespace BootRequest

/-- What was given so far: values that were checked, and an option that still waits for its
value or has one that was not checked. -/
inductive Progress where
  | settled (path : Option String)
  | waiting (path : Option String)
  | given (path : Option String) (value : String)
  deriving DecidableEq, Repr

namespace Progress

/-- Check what is left to check: a value must be there, must not be empty and must be the
only one. -/
def settle? : Progress → Option (Option String)
  | settled path => some path
  | waiting _ => none
  | given none value => if value.isEmpty then none else some (some value)
  | given (some _) _ => none

/-- The option is named, with a value or before one. -/
def name? (progress : Progress) (value : Option String) : Option Progress :=
  progress.settle?.map fun path =>
    match value with
    | some value => given path value
    | none => waiting path

/-- The request to show something, unless the arguments before it were wrong. -/
def ask (progress : Progress) (request : BootRequest) : BootRequest :=
  if progress.settle?.isSome then request else refuse

end Progress

/-- What one argument does: the arguments go on, or they are decided. -/
inductive Effect where
  | proceed (progress : Progress)
  | conclude (request : BootRequest)
  deriving DecidableEq, Repr

/-- Go on, unless something was wrong. -/
def Effect.ofProgress? : Option Progress → Effect
  | some progress => proceed progress
  | none => conclude refuse

/-- The value after a short option: the rest of its argument, without an equals sign. -/
def attached? : List Char → Option String
  | [] => none
  | '=' :: rest => some (String.ofList rest)
  | rest => some (String.ofList rest)

/-- The effect of an argument after a single hyphen. -/
def short (progress : Progress) : List Char → Effect
  | 'c' :: rest => .ofProgress? (progress.name? (attached? rest))
  | 'V' :: _ => .conclude (progress.ask showVersion)
  | 'h' :: _ => .conclude (progress.ask showUsage)
  | _ => .conclude refuse

/-- The effect of an argument after two hyphens. -/
def long (progress : Progress) (name : String) : Effect :=
  match name with
  | "config" => .ofProgress? (progress.name? none)
  | "version" => .conclude (progress.ask showVersion)
  | "help" => .conclude (progress.ask showUsage)
  | name =>
    let option := "config=".toList
    if option.isPrefixOf name.toList then
      .ofProgress? (progress.name? (some (String.ofList (name.toList.drop option.length))))
    else .conclude refuse

/-- The effect of an argument that is no option: only a value that was waited for may be
one. -/
def plain (progress : Progress) (argument : String) : Effect :=
  match progress with
  | .waiting path => .proceed (.given path argument)
  | _ => .conclude refuse

/-- The effect of an argument. -/
def effect (progress : Progress) (argument : String) : Effect :=
  match argument.toList with
  | '-' :: '-' :: name => long progress (String.ofList name)
  | '-' :: letter :: rest => short progress (letter :: rest)
  | _ => plain progress argument

/-- The request of the arguments when none is left. -/
def finish (progress : Progress) : BootRequest :=
  match progress.settle? with
  | some path => run path
  | none => refuse

/-- Work through arguments.  After two hyphens alone nothing may follow. -/
def follow (progress : Progress) : List String → BootRequest
  | [] => finish progress
  | "--" :: rest => if rest.isEmpty then finish progress else refuse
  | argument :: rest =>
    match effect progress argument with
    | .proceed next => follow next rest
    | .conclude request => request

/-- The request of the arguments. -/
def ofArguments (arguments : List String) : BootRequest :=
  follow (.settled none) arguments

example : ofArguments ["-c", "a.toml", "--"] = run (some "a.toml") := by decide +kernel

example : ofArguments ["-c", "a", "-c", "b", "-V"] = refuse := by decide +kernel

end BootRequest

end KernelControls
