import KernelControls.BootRun

/-!
# The boot run as a program

The boot run works on the files of the machine and prints what it has to say when it is
done.
-/

namespace KernelControls.Machine

/-! ## The files of the machine -/

/-- The code of the system that an error carries, with its text. -/
def codeOf? : IO.Error → Option (UInt32 × String)
  | .alreadyExists _ code text => some (code, text)
  | .otherError code text => some (code, text)
  | .resourceBusy code text => some (code, text)
  | .permissionDenied _ code text => some (code, text)
  | .resourceExhausted _ code text => some (code, text)
  | .inappropriateType _ code text => some (code, text)
  | .noFileOrDirectory _ code text => some (code, text)
  | .noSuchThing _ code text => some (code, text)
  | .invalidArgument _ code text => some (code, text)
  | .hardwareFault code text => some (code, text)
  | .unsatisfiedConstraints code text => some (code, text)
  | .illegalOperation code text => some (code, text)
  | _ => none

/-- The cause that an error of the system stands for. -/
def causeOf (error : IO.Error) : OsError :=
  match codeOf? error with
  | none => .other (toString error)
  | some (2, _) => .noEntry
  | some (16, _) => .busy
  | some (17, _) => .alreadyExists
  | some (20, _) => .notDirectory
  | some (21, _) => .isDirectory
  | some (22, _) => .invalidArgument
  | some (36, _) => .nameTooLong
  | some (code, text) => .other (text ++ " (os error " ++ toString code ++ ")")

/-- What an action gives, or the cause for which the system refused it. -/
def attempt {Value : Type} (action : IO Value) : IO (Except OsError Value) := do
  try pure (.ok (← action)) catch error => pure (.error (causeOf error))

/-- Put a file in place through a temporary one that does not remain. -/
def replace (directory path text : String) : IO (Except ReplaceError Unit) := do
  let temporary := Path.join directory (".preferences-" ++ toString (← IO.monoNanosNow))
  match ← attempt (IO.FS.writeFile temporary text) with
  | .error cause => pure (.error (.preparing cause))
  | .ok () =>
    match ← attempt (IO.FS.rename temporary path) with
    | .ok () => pure (.ok ())
    | .error cause => do
      let _ ← attempt (IO.FS.removeFile temporary)
      pure (.error (.placing cause))

instance : FileSystem IO where
  isPresent path := do
    let found ← attempt (IO.FS.realPath path)
    pure found.isOk
  isFile path := do
    match ← attempt (do (← IO.FS.realPath path).metadata) with
    | .ok found => pure (found.type == .file)
    | .error _ => pure false
  read path := attempt (IO.FS.readBinFile path)
  list path := attempt do
    let entries ← (← IO.FS.realPath path).readDir
    pure (entries.toList.map fun entry => entry.fileName)
  write path text := attempt (IO.FS.writeFile path text)
  makeDirectories path :=
    if path.isEmpty then pure (.ok ()) else attempt (IO.FS.createDirAll path)
  replace := replace

/-! ## The environment -/

/-- The name and the content of a variable as the system lists it. -/
def variableOf (entry : List Char) : String × String :=
  (String.ofList (entry.takeWhile (· != '=')),
    String.ofList ((entry.dropWhile (· != '=')).drop 1))

/-- The environment variables of the program. -/
def environment : IO (List (String × String)) := do
  match ← FileSystem.readText "/proc/self/environ" with
  | .ok text =>
    pure (((text.toList.splitOn '\x00').filter fun entry => !entry.isEmpty).map variableOf)
  | .error _ => pure []

end KernelControls.Machine

open KernelControls in
/-- Perform the boot run and leave with its exit code. -/
def main (arguments : List String) : IO UInt32 := do
  let result ← BootRun.run arguments (← Machine.environment)
  result.output.forM IO.println
  result.errors.forM IO.eprintln
  pure result.exitCode.toUInt32
