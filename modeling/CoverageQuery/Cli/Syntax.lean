/-!
# The syntax of the command line

The subcommands, the options that each of them takes and the words that name them.
-/

namespace CoverageQuery.Cli

inductive Verb where
  | render | query | raw | capabilities | describe | coverage | config
deriving DecidableEq, Repr

inductive Opt where
  | config | endpoint | coverage | subset | aggregate | format | output
deriving DecidableEq, Repr

namespace Verb

def all : List Verb := [render, query, raw, capabilities, describe, coverage, config]

def name : Verb → String
  | render => "render"
  | query => "query"
  | raw => "raw"
  | capabilities => "capabilities"
  | describe => "describe"
  | coverage => "coverage"
  | config => "config"

def ofName? (name : String) : Option Verb := all.find? (·.name == name)

/-- The options that stand only after the subcommand. -/
def ownOptions : Verb → List Opt
  | render => [.coverage, .subset, .aggregate, .format]
  | query => [.coverage, .subset, .aggregate, .format, .output]
  | coverage => [.subset, .format, .output]
  | raw | capabilities | describe | config => [.output]

/-- The name of the operand that the subcommand needs. None takes more than one. -/
def operand? : Verb → Option String
  | raw => some "TEXT"
  | describe | coverage => some "COVERAGE_ID"
  | render | query | capabilities | config => none

/-- The options that the subcommand needs. -/
def required : Verb → List Opt
  | render | query => [.coverage]
  | _ => []

end Verb

namespace Opt

/-- Options that may stand before or after the subcommand. -/
def everywhere : List Opt := [config, endpoint]

def name : Opt → String
  | config => "config"
  | endpoint => "endpoint"
  | coverage => "coverage"
  | subset => "subset"
  | aggregate => "aggregate"
  | format => "format"
  | output => "output"

/-- The letter of an option that has one. -/
def letter? : Opt → Option Char
  | config | endpoint => none
  | coverage => some 'c'
  | subset => some 's'
  | aggregate => some 'a'
  | format => some 'f'
  | output => some 'o'

/-- Whether the option may be given again to add values. -/
def repeats : Opt → Bool
  | coverage | subset => true
  | config | endpoint | aggregate | format | output => false

/-- Whether the value is a path, which is not empty. -/
def isPath : Opt → Bool
  | config | output => true
  | endpoint | coverage | subset | aggregate | format => false

/-- Whether several values may follow the option. -/
def takesMany (o : Opt) : Bool := o == coverage

end Opt

/-- The options after a subcommand. -/
def Verb.options (v : Verb) : List Opt := v.ownOptions ++ Opt.everywhere

end CoverageQuery.Cli
