import CoverageQuery.Cli.Syntax
import CoverageQuery.Text.Scan

/-!
# Reading the command line

Words are read from left to right. An option collects the words after it until it has its values or
another option begins, and is checked only then; two hyphens end the options. A request for help or
for the version counts as soon as it is read.
-/

namespace CoverageQuery.Cli

/-- The options and the operand read so far, and the option that is still collecting values. -/
structure Scan where
  given : List (Opt × List String)
  open? : Option (Opt × List String)
  operand : Option String

/-- Why no command is run. -/
inductive Stop where
  | usage
  | help (about : Option Verb)
  | helpOnHelp
  | version
deriving DecidableEq, Repr

namespace Scan

def empty : Scan := ⟨[], none, none⟩

def values (s : Scan) (o : Opt) : List String :=
  s.given.flatMap fun (given, values) => if given = o then values else []

def value? (s : Scan) (o : Opt) : Option String := (s.values o).head?

def add (s : Scan) (o : Opt) (values : List String) : Except Stop Scan :=
  if values = [] ∨ (!o.repeats && s.values o ≠ []) ∨ (o.isPath && values.contains "") then
    .error .usage
  else .ok { s with given := s.given ++ [(o, values)], open? := none }

/-- Adds the option that is collecting values. -/
def settle (s : Scan) : Except Stop Scan :=
  match s.open? with
  | none => .ok s
  | some (o, values) => s.add o values

/-- Begins an option, with its value if that is attached. -/
def begin (s : Scan) (o : Opt) (attached : Option String) : Except Stop Scan := do
  let s ← s.settle
  match attached with
  | some value => s.add o [value]
  | none => .ok { s with open? := some (o, []) }

/-- Stops for a flag that takes no value. -/
def flag (s : Scan) (stop : Stop) : Except Stop Scan := do
  let _ ← s.settle
  .error stop

/-- Gives a word to the option that is collecting values, if one is. -/
def collect? (s : Scan) (word : String) : Option Scan :=
  match s.open? with
  | some (o, values) =>
    if values = [] ∨ o.takesMany then some { s with open? := some (o, values ++ [word]) } else none
  | none => none

end Scan

/-- Where in the command line a word stands: before the subcommand or after it. -/
abbrev Place := Option Verb

def Place.options : Place → List Opt
  | none => Opt.everywhere
  | some v => v.options

/-- The flags at a place by their names and letters. The version can be asked for only before the
subcommand. -/
def flags (place : Place) : List (String × Char × Stop) :=
  ("help", 'h', .help place) :: if place = none then [("version", 'V', .version)] else []

/-- The scan after an option or a flag that begins with two hyphens. -/
def readLong (place : Place) (s : Scan) (word : List Char) : Except Stop Scan :=
  let (name, value) :=
    match Text.splitAt? '=' word with
    | some (name, value) => (String.ofList name, some (String.ofList value))
    | none => (String.ofList word, none)
  match (Place.options place).find? (·.name == name) with
  | some o => s.begin o value
  | none =>
    match (flags place).find? (·.1 == name), value with
    | some (_, _, stop), none => s.flag stop
    | _, _ => .error .usage

/-- The scan after an option or a flag that begins with one hyphen. The value of an option may
stand right after the letter or after an equals sign. -/
def readShort (place : Place) (s : Scan) (letter : Char) (rest : List Char) : Except Stop Scan :=
  match (Place.options place).find? (·.letter? == some letter) with
  | some o =>
    match rest with
    | [] => s.begin o none
    | '=' :: value => s.begin o (some (String.ofList value))
    | value => s.begin o (some (String.ofList value))
  | none =>
    match (flags place).find? (·.2.1 == letter) with
    | some (_, _, stop) => s.flag stop
    | none => .error .usage

/-- An option at some place; none for a word that does not begin one. -/
def readOption? (place : Place) (s : Scan) (word : String) : Option (Except Stop Scan) :=
  match word.toList with
  | '-' :: '-' :: rest => some (readLong place s rest)
  | '-' :: letter :: rest => some (readShort place s letter rest)
  | _ => none

def readOperand (v : Verb) (s : Scan) (word : String) : Except Stop Scan := do
  let s ← s.settle
  if v.operand?.isSome ∧ s.operand = none then .ok { s with operand := some word }
  else .error .usage

/-- The words after a subcommand. -/
def readWords (v : Verb) (s : Scan) : List String → Except Stop Scan
  | [] => s.settle
  | "--" :: words => do
    let s ← words.foldlM (readOperand v) s
    s.settle
  | word :: words =>
    match readOption? (some v) s word with
    | some result => do
      let s ← result
      readWords v s words
    | none =>
      match s.collect? word with
      | some s => readWords v s words
      | none => do
        let s ← readOperand v s word
        readWords v s words

/-- What a subcommand needs must be there. -/
def checkRequired (v : Verb) (s : Scan) : Except Stop Unit :=
  if (v.operand?.isSome ∧ s.operand = none) ∨ v.required.any (fun o => s.values o = []) then
    .error .usage
  else .ok ()

/-- The words after `help`, which may name a subcommand or `help` itself. -/
def readHelp : List String → Stop
  | [] => .help none
  | [word] =>
    if word = "help" then .helpOnHelp
    else
      match Verb.ofName? word with
      | some v => .help (some v)
      | none => .usage
  | _ => .usage

/-- The subcommand, the scan of the words before it and that of the words after it. -/
def readFrom (s : Scan) : List String → Except Stop (Verb × Scan × Scan)
  | [] => .error .usage
  | "--" :: _ => .error .usage
  | word :: words =>
    match readOption? none s word with
    | some result => do
      let s ← result
      readFrom s words
    | none =>
      match s.collect? word with
      | some s => readFrom s words
      | none =>
        if word = "help" then .error (readHelp words)
        else
          match Verb.ofName? word with
          | none => .error .usage
          | some v => do
            let after ← readWords v .empty words
            checkRequired v after
            let before ← s.settle
            .ok (v, before, after)

/-- What describes a query over one source. -/
structure QueryArgs where
  coverages : List String
  subsets : List String
  aggregate : Option String
  format : Option String
deriving DecidableEq, Repr

inductive Command where
  | render (args : QueryArgs)
  | query (args : QueryArgs) (output : Option String)
  | raw (text : String) (output : Option String)
  | capabilities (output : Option String)
  | describe (coverageId : String) (output : Option String)
  | coverage (coverageId : String) (subsets : List String) (format output : Option String)
  | config (output : Option String)
deriving DecidableEq, Repr

structure Invocation where
  config : Option String
  endpoint : Option String
  command : Command
deriving DecidableEq, Repr

def Scan.queryArgs (s : Scan) : QueryArgs :=
  ⟨s.values .coverage, s.values .subset, s.value? .aggregate, s.value? .format⟩

/-- The command with what was read after its name. -/
def Verb.command (v : Verb) (s : Scan) : Command :=
  let output := s.value? .output
  let operand := s.operand.getD ""
  match v with
  | render => .render s.queryArgs
  | query => .query s.queryArgs output
  | raw => .raw operand output
  | capabilities => .capabilities output
  | describe => .describe operand output
  | coverage => .coverage operand (s.values .subset) (s.value? .format) output
  | config => .config output

/-- What the command line asks for. An option given after the subcommand beats the same option
before it. -/
def Invocation.read (words : List String) : Except Stop Invocation := do
  let (v, before, after) ← readFrom .empty words
  let value (o : Opt) := (after.value? o).or (before.value? o)
  .ok ⟨value .config, value .endpoint, v.command after⟩

end CoverageQuery.Cli
