import CoverageQuery.Axis.Basic
import CoverageQuery.Format
import CoverageQuery.Text.Joined
import CoverageQuery.Text.Percent

/-!
# Service requests

The requests that need no query text, the parameters that carry them and the URL of these. A
coverage id must not be blank, which is checked before the format.
-/

namespace CoverageQuery

/-- The service that requests are sent to. -/
structure ServiceParams where
  endpoint : String
  service : String
  version : String
deriving DecidableEq, Repr

inductive ServiceRequest where
  | capabilities
  | describe (coverageId : String)
  | coverage (coverageId : String) (subsets : List AxisSubset) (format : Option String)
  | process
deriving DecidableEq

namespace ServiceRequest

def kind : ServiceRequest → RequestKind
  | capabilities => .capabilities
  | describe _ => .describe
  | coverage _ _ _ => .coverage
  | process => .process

def name (r : ServiceRequest) : String := r.kind.name

def coverageId? : ServiceRequest → Option String
  | describe id | coverage id _ _ => some id
  | capabilities | process => none

def subsets : ServiceRequest → List AxisSubset
  | coverage _ axes _ => axes
  | _ => []

def format? : ServiceRequest → Option String
  | coverage _ _ format => format
  | _ => none

/-- The format that the request names, if it names one. -/
def outputFormat (r : ServiceRequest) : Except QueryError (Option OutputFormat) :=
  match r.format? with
  | none => .ok none
  | some name => some <$> OutputFormat.known name

def checkCoverageId (r : ServiceRequest) : Except QueryError Unit :=
  match r.coverageId? with
  | some id => if Text.Blank id then .error (.missingCoverageId r.kind) else .ok ()
  | none => .ok ()

def validate (r : ServiceRequest) : Except QueryError Unit := do
  r.checkCoverageId
  let _ ← r.outputFormat
  pure ()

/-- An axis subset as a parameter, its bounds separated by a comma. -/
def subsetChars (a : AxisSubset) : List Char :=
  a.name.toList ++ '(' :: Text.joined [','] (a.range.bounds.map Bound.chars) ++ [')']

/-- Keys and values in the order in which they are sent. -/
def parameters (r : ServiceRequest) (p : ServiceParams) :
    Except QueryError (List (String × String)) := do
  r.checkCoverageId
  let format ← r.outputFormat
  pure ([("service", p.service), ("version", p.version), ("request", r.name)] ++
    r.coverageId?.toList.map (fun id => ("coverageId", id)) ++
    r.subsets.map (fun a => ("subset", String.ofList (subsetChars a))) ++
    format.toList.map (fun f => ("format", f.mediaType)))

def pairChars (pair : String × String) : List Char :=
  pair.1.toList ++ '=' :: Text.Percent.encode pair.2.toList

/-- The endpoint with the parameters after a question mark, their values percent encoded. -/
def url (r : ServiceRequest) (p : ServiceParams) : Except QueryError String := do
  let pairs ← r.parameters p
  pure (String.ofList (p.endpoint.toList ++ '?' :: Text.joined ['&'] (pairs.map pairChars)))

end ServiceRequest

end CoverageQuery
