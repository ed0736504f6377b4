import CoverageQuery.Config.File
import CoverageQuery.Files.Basic

/-!
# Where a configuration comes from

A file that is named must load. Of files that are only looked for, the first that loads counts and
the others are passed over. The environment overrides either.
-/

namespace CoverageQuery

/-- Why a file gives no configuration. -/
inductive ConfigError where
  | unreadable (fault : FileFault)
  | malformed
deriving DecidableEq, Repr

def ConfigError.message (path : String) : ConfigError → String
  | unreadable fault =>
    "Failed to read config file " ++ String.ofList (Text.quoted path.toList) ++ ": " ++
      fault.message
  | malformed =>
    "Failed to parse config file " ++ String.ofList (Text.quoted path.toList) ++
      ": TOML parse error"

/-- The settings of a file that must be there. -/
def FileContent.settings : FileContent → Except ConfigError Settings
  | .error fault => .error (.unreadable fault)
  | .ok text =>
    match Settings.parse? text with
    | some s => .ok s
    | none => .error .malformed

def FileContent.settings? (file : FileContent) : Option Settings := file.settings.toOption

namespace Config

/-- The paths of the files in which a configuration is looked for. Not every user has a directory
for configuration files. -/
def candidates (userDirectory : Option String) : List String :=
  userDirectory.toList.map (fun d => inDirectory (inDirectory d "datacube") "config.toml") ++
    ["/etc/datacube/config.toml", "./datacube.toml"]

def load (file : FileContent) : Except ConfigError Config := do
  let s ← file.settings
  pure (builtIn.override s)

def loadWith (file : FileContent) (env : Environment) : Except ConfigError Config := do
  let c ← load file
  pure (c.override env.settings)

def ofEnvironment (env : Environment) : Config := builtIn.override env.settings

/-- The configuration from the first of some files that loads, or from none. -/
def search (candidates : List FileContent) (env : Environment) : Config :=
  match candidates.findSome? FileContent.settings? with
  | some s => (builtIn.override s).override env.settings
  | none => ofEnvironment env

end Config

end CoverageQuery
