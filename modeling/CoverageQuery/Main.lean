import CoverageQuery.Cli.Run
import CoverageQuery.Delivery

/-!
# The program

Gives the command line what it needs of the machine and does what it plans. The program has no
network: requests are checked, but do not arrive.
-/

namespace CoverageQuery.Cli

def fileFault : IO.Error → FileFault
  | .noFileOrDirectory _ _ _ => .missing
  | .permissionDenied _ _ _ => .denied
  | .inappropriateType _ 20 _ => .notDirectory
  | .inappropriateType _ _ _ => .directory
  | .invalidArgument _ 36 _ => .nameTooLong
  | e => .other (toString e)

def readFile (path : String) : IO FileContent := do
  match ← (IO.FS.readBinFile path).toBaseIO with
  | .ok bytes => return .ofBytes bytes.toList
  | .error e => return .error (fileFault e)

def variableNames : List String :=
  ["DATACUBE_ENDPOINT", "DATACUBE_SERVICE", "DATACUBE_VERSION", "DATACUBE_TIMEOUT_SECS",
    "DATACUBE_LOG_LEVEL", "DATACUBE_LOG_FORMAT"]

def readEnvironment : IO Environment := do
  let values ← variableNames.mapM fun name => do return (name, ← IO.getEnv name)
  return fun name => (values.lookup name).join

/-- The directory of the user's configuration files, as far as the environment tells. A user whose
home is known to the system only is not looked up. -/
def readUserDirectory : IO (Option String) := do
  let named := (← IO.getEnv "XDG_CONFIG_HOME").filter (·.startsWith "/")
  let home := (← IO.getEnv "HOME").filter (· ≠ "")
  return named.or (home.map fun home => inDirectory home ".config")

/-- The machine as far as a command line asks about it. -/
def readMachine (words : List String) : IO Machine := do
  let environment ← readEnvironment
  let userDirectory ← readUserDirectory
  let paths :=
    match (Invocation.read words).toOption.bind (·.config) with
    | some path => [path]
    | none => Config.candidates userDirectory
  let files ← paths.mapM fun path => do return (path, ← readFile path)
  return {
    environment := environment
    userDirectory := userDirectory
    file := fun path => (files.lookup path).getD (.error .missing)
    channel := .offline }

def Report.print (r : Report) : IO UInt32 := do
  let output ← IO.getStdout
  output.write ⟨r.output.toArray⟩
  output.flush
  IO.eprint r.errors
  return r.exit

def Plan.act : Plan → IO UInt32
  | report r => r.print
  | save path content saved failed => do
    match ← (IO.FS.writeBinFile path ⟨content.toArray⟩).toBaseIO with
    | .ok () => saved.print
    | .error e => (failed (fileFault e)).print

end CoverageQuery.Cli

def main (words : List String) : IO UInt32 := do
  let machine ← CoverageQuery.Cli.readMachine words
  (CoverageQuery.Cli.plan words machine).act
