import KernelControls.FileSystem
import KernelControls.Json.Reader
import KernelControls.Settings.Layer
import KernelControls.Toml.Reader
import KernelControls.Toml.Stamp

/-!
# Loading settings

Settings are loaded from a file and from environment variables above it.  A file that is
named must be there; without one the user's file is taken if it is there, and else the
system's, which may be absent.

## Strategy

The format of a file is told by its extension.  A path that leads to no file also stands
for the file whose name has such an extension added.  A file of another kind, or one that
is no text, is passed over like an absent one; only a document that is malformed is
refused.
-/

namespace KernelControls

/-- The formats of settings files. -/
inductive SettingsFormat where
  | toml
  | json
  deriving DecidableEq, Repr

namespace SettingsFormat

/-- The extension of a format's files. -/
def extension : SettingsFormat → String
  | toml => "toml"
  | json => "json"

/-- All formats, in the order in which an absent extension is tried. -/
def all : List SettingsFormat := [toml, json]

/-- The format of a path's extension. -/
def ofPath? (path : String) : Option SettingsFormat := do
  let extension ← Path.extension? (← Path.fileName? path)
  all.find? fun format => format.extension = extension

/-- The path with the format's extension added to its file name. -/
def extend? (format : SettingsFormat) (path : String) : Option String := do
  let name ← Path.fileName? path
  let directory := (Path.components path).dropLast
  some (Path.ofComponents (directory ++ [.name (name ++ "." ++ format.extension)]))

/-- The layer of a document. -/
def layer? (format : SettingsFormat) (text : String) : Option Layer :=
  match format with
  | toml => ((Toml.read? text).bind Toml.resolveDocument?).map Layer.ofTomlFields
  | json =>
    match Json.read? text with
    | some (.record fields) => some (Layer.ofJsonFields fields)
    | _ => none

end SettingsFormat

namespace Settings

variable {m : Type → Type} [Monad m] [FileSystem m]

/-- The first file among paths of known formats. -/
def firstFile : List (SettingsFormat × Option String) → m (Option (SettingsFormat × String))
  | [] => pure none
  | (_, none) :: rest => firstFile rest
  | (format, some path) :: rest => do
    if ← FileSystem.isFile path then pure (some (format, path)) else firstFile rest

/-- The file that a path stands for, if there is one of a known format. -/
def findFile (path : String) : m (Option (SettingsFormat × String)) := do
  if ← FileSystem.isFile path then
    pure ((SettingsFormat.ofPath? path).map fun format => (format, path))
  else firstFile (SettingsFormat.all.map fun format => (format, format.extend? path))

/-- The layer of the file that a path stands for. -/
def fileLayer (path : String) : m (Option Layer) := do
  match ← findFile path with
  | none => pure (some ⟨[]⟩)
  | some (format, path) =>
    match ← FileSystem.readText path with
    | .ok text => pure (format.layer? text)
    | .error _ => pure (some ⟨[]⟩)

/-- Load settings from a file that may be absent and from environment variables. -/
def loadLayered (environment : List (String × String)) (path : String) :
    m (Except Refusal Settings) := do
  match ← fileLayer path with
  | none => pure (.error .malformed)
  | some file =>
    match ofLayers? file (.ofEnvironment environment) with
    | some settings => pure settings.check
    | none => pure (.error .malformed)

/-- The user's settings file. -/
def userPath : String := "/data/hwtune/config.toml"

/-- The system's settings file. -/
def systemPath : String := "/etc/hwtune/config.toml"

/-- Load settings from a named file, which must be there, or from one of the default files. -/
def load (environment : List (String × String)) : Option String → m (Except Refusal Settings)
  | some path => do
    if ← FileSystem.isPresent path then loadLayered environment path
    else pure (.error (.notFound path))
  | none => do
    if ← FileSystem.isPresent userPath then loadLayered environment userPath
    else loadLayered environment systemPath

end Settings

end KernelControls
