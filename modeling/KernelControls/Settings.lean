import KernelControls.Path

/-!
# Settings of the boot run

Five settings say where nodes, preferences, definition files and the report are, and what
is logged.  Each has a default, so a machine needs no settings file at all.
-/

namespace KernelControls

/-- What can be set. -/
inductive Setting where
  | nodeRoot
  | storePath
  | familiesDirectory
  | reportPath
  | logFilter
  deriving DecidableEq, Repr

namespace Setting

/-- The name of a setting in files and, in any case, in the environment.  It consists of small
ASCII letters and underscores. -/
def name : Setting → String
  | nodeRoot => "node_root"
  | storePath => "store_path"
  | familiesDirectory => "families_dir"
  | reportPath => "report_path"
  | logFilter => "log_filter"

/-- The value of a setting that nothing sets. -/
def default : Setting → String
  | nodeRoot => "/"
  | storePath => "/data/hwtune/preferences.toml"
  | familiesDirectory => "/etc/hwtune/families"
  | reportPath => "/run/hwtune-boot-sync.json"
  | logFilter => "info"

end Setting

/-- A value for each setting. -/
structure Settings where
  nodeRoot : String
  storePath : String
  familiesDirectory : String
  reportPath : String
  logFilter : String
  deriving DecidableEq, Repr

namespace Settings

/-- The value of a setting. -/
def value (settings : Settings) : Setting → String
  | .nodeRoot => settings.nodeRoot
  | .storePath => settings.storePath
  | .familiesDirectory => settings.familiesDirectory
  | .reportPath => settings.reportPath
  | .logFilter => settings.logFilter

/-- The settings with the given values. -/
def ofValues (value : Setting → String) : Settings where
  nodeRoot := value .nodeRoot
  storePath := value .storePath
  familiesDirectory := value .familiesDirectory
  reportPath := value .reportPath
  logFilter := value .logFilter

/-- The settings that nothing sets. -/
def default : Settings :=
  ofValues Setting.default

/-- Whether settings differ in nothing but the spelling of their paths. -/
def Same (left right : Settings) : Prop :=
  Path.Same left.nodeRoot right.nodeRoot ∧ Path.Same left.storePath right.storePath ∧
    Path.Same left.familiesDirectory right.familiesDirectory ∧
      Path.Same left.reportPath right.reportPath ∧ left.logFilter = right.logFilter

instance (left right : Settings) : Decidable (Same left right) :=
  inferInstanceAs (Decidable (_ ∧ _ ∧ _ ∧ _ ∧ _))

/-! ## Refusals -/

/-- Why settings could not be loaded: the named file is not there, a layer is no document or
holds a value that is no text, or a setting that must not be empty is. -/
inductive Refusal where
  | notFound (path : String)
  | malformed
  | empty (setting : Setting)
  deriving DecidableEq, Repr

/-- What is said about settings that could not be loaded. -/
def Refusal.message : Refusal → String
  | notFound path => "Configuration file not found: " ++ path
  | malformed => "Layered configuration error"
  | empty setting => "Invalid configuration: " ++ setting.name ++ " must not be empty"

/-- Refuse settings without a place for preferences or for nodes. -/
def check (settings : Settings) : Except Refusal Settings :=
  if settings.storePath.isEmpty then .error (.empty .storePath)
  else if settings.nodeRoot.isEmpty then .error (.empty .nodeRoot)
  else .ok settings

end Settings

end KernelControls
