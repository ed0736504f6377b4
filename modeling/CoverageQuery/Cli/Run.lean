import CoverageQuery.Cli.Query
import CoverageQuery.Cli.Help
import CoverageQuery.Config.Search
import CoverageQuery.Config.Template
import CoverageQuery.Exchange
import CoverageQuery.Files.Tree

/-!
# What a command does

A command is carried out on a machine that has files, an environment and a channel to a service.
It ends with a report, or saves something first and then reports whether that worked.
-/

namespace CoverageQuery.Cli

/-- What a program leaves behind: its exit code and what it has written to its two outputs. -/
structure Report where
  exit : UInt32
  output : List UInt8
  errors : String
deriving DecidableEq, Repr

namespace Report

def success (text : String) : Report := ⟨0, text.toUTF8.toList, ""⟩

def failure (text : String) : Report := ⟨1, [], "Error: " ++ text ++ "\n"⟩

end Report

inductive Plan where
  | report (r : Report)
  | save (path : String) (content : List UInt8) (saved : Report) (failed : FileFault → Report)

/-- What a command finds on the machine. Where the user's configuration files are is up to the
system. -/
structure Machine where
  environment : Environment
  userDirectory : Option String
  file : String → FileContent
  channel : Channel

/-- The lines of a text, which end only at line feeds. -/
def linesOf (text : List Char) : List (List Char) := Text.fields '\n' text

/-- A message and its cause, every line of which is indented. -/
def withCause (message cause : String) : String :=
  message ++ "\n\nCaused by:" ++
    String.join ((linesOf cause.toList).map fun line => "\n    " ++ String.ofList line)

def ArgumentError.message : ArgumentError → String
  | query e => e.message
  | subset text cause => withCause ("Invalid subset '" ++ text ++ "'") cause.message
  | aggregation name => "Unknown aggregation '" ++ name ++ "'"

def ArgumentError.plan (e : ArgumentError) : Plan := .report (.failure e.message)

def pathText (path : String) : String := String.ofList (Text.quoted path.toList)

/-- What a plan reports, and the files after it has been carried out. -/
def Plan.carryOut (files : FileTree) : Plan → Report × FileTree
  | report r => (r, files)
  | save path content saved failed =>
    match files.write path content with
    | .ok files => (saved, files)
    | .error fault => (failed fault, files)

/-- What is reported when a file cannot be written. -/
def saveFailed (path : String) (fault : FileFault) : Report :=
  .failure (withCause ("Failed to write " ++ pathText path) fault.message)

/-- Passes a response on. The envelope of a failure goes to the error output. -/
def deliver (output : Option String) : Response → Plan
  | .failure f => .report ⟨1, [], String.ofList (f.toJson.pretty 0) ++ "\n"⟩
  | .success bytes =>
    match output with
    | none => .report ⟨0, bytes, ""⟩
    | some path =>
      .save path bytes
        ⟨0, [], "Wrote " ++ natText bytes.length ++ " bytes to " ++ pathText path ++ "\n"⟩
        (saveFailed path)

/-- Carries out an errand and passes the response on. -/
def perform (channel : Channel) (params : ServiceParams) (output : Option String) (e : Errand) :
    Plan :=
  match (channel.perform params e).1 with
  | .ok response => deliver output response
  | .error error => (ArgumentError.query error).plan

/-- The variable of a query from the command line is the first of a fresh supply. -/
def sourceVariable : String := variableName 1

def Command.plan (channel : Channel) (params : ServiceParams) : Command → Plan
  | .render args =>
    match args.render sourceVariable with
    | .ok text => .report (.success (text ++ "\n"))
    | .error e => e.plan
  | .query args output =>
    match args.build sourceVariable with
    | .ok q => perform channel params output (.execute q args.format)
    | .error e => e.plan
  | .raw text output => deliver output (.ofReply (channel.post (.query params text)).1)
  | .capabilities output => perform channel params output (.send .capabilities)
  | .describe id output => perform channel params output (.send (.describe id))
  | .coverage id subsets format output =>
    match subsets.mapM readSubset with
    | .ok axes => perform channel params output (.send (.coverage id axes format))
    | .error e => e.plan
  | .config none => .report (.success Config.template)
  | .config (some path) =>
    .save path Config.template.toUTF8.toList
      (.success ("Config written to " ++ pathText path ++ "\n")) (saveFailed path)

/-- The configuration that a command runs with. An endpoint on the command line beats every other
source. -/
def Invocation.configuration (i : Invocation) (m : Machine) : Except String Config := do
  let c ←
    match i.config with
    | some path => (Config.loadWith (m.file path) m.environment).mapError (·.message path)
    | none => pure (Config.search ((Config.candidates m.userDirectory).map m.file) m.environment)
  pure (c.override { endpoint := i.endpoint })

def Invocation.plan (i : Invocation) (m : Machine) : Plan :=
  match i.configuration m with
  | .ok c => i.command.plan m.channel c.params
  | .error message => .report (.failure message)

def Stop.report : Stop → Report
  | usage => ⟨2, [], complaint⟩
  | help about => .success (Cli.help about)
  | helpOnHelp => .success Cli.helpOnHelp
  | version => .success "datacube 0.1.0\n"

/-- What the program does with its arguments. -/
def plan (words : List String) (m : Machine) : Plan :=
  match Invocation.read words with
  | .ok i => i.plan m
  | .error stop => .report stop.report

end CoverageQuery.Cli
