import CoverageQuery.Cli.Arguments

/-!
# Help texts

The help for the whole program and for each subcommand, in columns, and the note on a command line
that does not read.
-/

namespace CoverageQuery.Cli

def Verb.about : Verb → String
  | render => "Print query text without sending it"
  | query => "Build and execute a query"
  | raw => "Post hand-written query text"
  | capabilities => "Fetch the service capabilities document"
  | describe => "Describe one coverage"
  | coverage => "Fetch raw coverage data"
  | config => "Generate default config file"

def Verb.operandAbout (v : Verb) : String :=
  match v with
  | raw => "Query text"
  | _ => "Coverage identifier"

/-- What an option means at a place. -/
def Opt.about (place : Place) : Opt → String
  | config => "Config file (default: search the standard locations)"
  | endpoint => "Service endpoint URL, overriding the config"
  | coverage => "Coverage names bound to the iteration variable"
  | subset =>
    if place = some .coverage then "Axis subsets, e.g. 'Lat(35:75)'"
    else "Axis subsets, e.g. 'Lat(53.08)' or 'ansi(\"2014-01\":\"2014-12\")'"
  | aggregate => "Aggregation applied to the coverage (min, max, avg, sum, count)"
  | format =>
    if place = some .coverage then "Output format (png, tiff, netcdf, ...)"
    else "Output format (png, csv, json, ...)"
  | output =>
    match place with
    | some .query | some .raw => "Output file (default: stdout)"
    | some .config => "Output path (default: stdout)"
    | _ => ""

def Opt.usage (o : Opt) : String :=
  "--" ++ o.name ++ " <" ++ o.name.map Char.toUpper ++ ">" ++ if o.takesMany then "..." else ""

/-- An option in the first column. -/
def Opt.row (place : Place) (o : Opt) : String × String :=
  ((match o.letter? with
    | some c => "-" ++ String.singleton c ++ ", "
    | none => "    ") ++ o.usage, o.about place)

/-- Lines of two columns, the second one aligned. -/
def columns (rows : List (String × String)) : String :=
  let width := rows.foldl (fun width row => max width row.1.length) 0
  String.join (rows.map fun (left, right) =>
    "  " ++ left ++ "".pushn ' ' (width - left.length + 2) ++ right ++ "\n")

def flagRows (place : Place) : List (String × String) :=
  ("-h, --help", "Print help") ::
    if place = none then [("-V, --version", "Print version")] else []

def optionRows (place : Place) : List (String × String) :=
  (match place with | some v => v.options | none => Opt.everywhere).map (Opt.row place) ++
    flagRows place

def Verb.usage (v : Verb) : String :=
  "Usage: datacube " ++ v.name ++ " [OPTIONS]" ++
    String.join (v.required.map fun o => " " ++ o.usage) ++
    (match v.operand? with | some operand => " <" ++ operand ++ ">" | none => "") ++ "\n"

/-- What `help` does, which is not a subcommand of its own kind. -/
def helpAbout : String := "Print this message or the help of the given subcommand(s)"

def usage : String := "Usage: datacube [OPTIONS] <COMMAND>\n"

def help : Place → String
  | none =>
    "Build and run coverage processing queries\n\n" ++ usage ++ "\nCommands:\n" ++
      columns (Verb.all.map (fun v => (v.name, v.about)) ++
        [("help", helpAbout)]) ++
      "\nOptions:\n" ++ columns (optionRows none)
  | some v =>
    v.about ++ "\n\n" ++ v.usage ++
      (match v.operand? with
        | some operand =>
          "\nArguments:\n" ++ columns [("<" ++ operand ++ ">", v.operandAbout)]
        | none => "") ++
      "\nOptions:\n" ++ columns (optionRows (some v))

/-- The help for `help` itself. -/
def helpOnHelp : String :=
  helpAbout ++ "\n\nUsage: datacube help [COMMAND]...\n\nArguments:\n" ++
    columns [("[COMMAND]...", "Print help for the subcommand(s)")]

/-- The note on a command line that does not read. -/
def complaint : String :=
  "error: the command line could not be read\n\n" ++ usage ++
    "\nFor more information, try '--help'.\n"

end CoverageQuery.Cli
