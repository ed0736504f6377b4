import CoverageQuery.Decimal.Basic
import CoverageQuery.Request

/-!
# Configuration

Six settings, each with a built-in value. A source of settings gives some of them and is silent
about the others; a configuration is overridden setting by setting.
-/

namespace CoverageQuery

/-- What one source says about the settings. -/
structure Settings where
  endpoint : Option String := none
  service : Option String := none
  version : Option String := none
  timeoutSecs : Option UInt64 := none
  logLevel : Option String := none
  logFormat : Option String := none
deriving DecidableEq, Repr

structure Config where
  endpoint : String
  service : String
  version : String
  timeoutSecs : UInt64
  logLevel : String
  logFormat : String
deriving DecidableEq, Repr

namespace Config

def builtIn : Config where
  endpoint := "https://ows.rasdaman.org/rasdaman/ows"
  service := "WCS"
  version := "2.0.1"
  timeoutSecs := 60
  logLevel := "info"
  logFormat := "pretty"

/-- Every setting as the source gives it, or else as it was. -/
def override (c : Config) (s : Settings) : Config where
  endpoint := s.endpoint.getD c.endpoint
  service := s.service.getD c.service
  version := s.version.getD c.version
  timeoutSecs := s.timeoutSecs.getD c.timeoutSecs
  logLevel := s.logLevel.getD c.logLevel
  logFormat := s.logFormat.getD c.logFormat

def params (c : Config) : ServiceParams := ⟨c.endpoint, c.service, c.version⟩

end Config

/-- The values of environment variables. -/
abbrev Environment := String → Option String

/-- Digits after an optional plus, if their value fits 64 bits. -/
def readSeconds? (text : String) : Option UInt64 :=
  let digits :=
    match text.toList with
    | '+' :: rest => rest
    | all => all
  if digits ≠ [] ∧ digits.all Char.isDigit ∧ digitsValue digits < UInt64.size then
    some (UInt64.ofNat (digitsValue digits))
  else none

/-- The settings in the environment. A timeout that is not a number of seconds counts as unset. -/
def Environment.settings (env : Environment) : Settings where
  endpoint := env "DATACUBE_ENDPOINT"
  service := env "DATACUBE_SERVICE"
  version := env "DATACUBE_VERSION"
  timeoutSecs := (env "DATACUBE_TIMEOUT_SECS").bind readSeconds?
  logLevel := env "DATACUBE_LOG_LEVEL"
  logFormat := env "DATACUBE_LOG_FORMAT"

end CoverageQuery
