import CoverageQuery.Config.Basic
import CoverageQuery.Toml.Reader

/-!
# Configuration files

The tables `service` and `logging` of a TOML document hold the settings, under their names or, in an
array, in a fixed order. Other keys are ignored; a setting of the wrong type spoils the file.
-/

namespace CoverageQuery

namespace Toml

/-- The fields of a value that is read as a record: by name from a table, by position from an
array. A moment has no field of any name that is asked for. -/
def Value.field? : Value → Option (Nat → String → Option Value)
  | table _ entries => some fun _ name => Entries.get? entries name
  | array items => some fun position _ => items[position]?
  | tables rows => some fun position _ => (rows[position]?).map (table .header)
  | moment => some fun _ _ => none
  | _ => none

/-- The string that an optional value is; the outer option is none for a value of another type. -/
def string? : Option Value → Option (Option String)
  | none => some none
  | some (.string s) => some (some s)
  | some _ => none

/-- The integer that an optional value is, if it is not negative. -/
def natural? : Option Value → Option (Option UInt64)
  | none => some none
  | some (.integer n) => if 0 ≤ n.toInt then some (some n.toUInt64) else none
  | some _ => none

end Toml

namespace Settings

/-- Adds the settings of a table about the service. -/
def withService (s : Settings) : Option Toml.Value → Option Settings
  | none => some s
  | some table => do
    let field ← table.field?
    let endpoint ← Toml.string? (field 0 "endpoint")
    let service ← Toml.string? (field 1 "service")
    let version ← Toml.string? (field 2 "version")
    let timeoutSecs ← Toml.natural? (field 3 "request_timeout_secs")
    some { s with endpoint, service, version, timeoutSecs }

/-- Adds the settings of a table about logging. -/
def withLogging (s : Settings) : Option Toml.Value → Option Settings
  | none => some s
  | some table => do
    let field ← table.field?
    let logLevel ← Toml.string? (field 0 "level")
    let logFormat ← Toml.string? (field 1 "format")
    some { s with logLevel, logFormat }

/-- The settings in the text of a configuration file. -/
def parse? (text : String) : Option Settings := do
  let root ← Toml.parse? text
  let s ← withService {} (Toml.Entries.get? root "service")
  s.withLogging (Toml.Entries.get? root "logging")

end Settings

end CoverageQuery
