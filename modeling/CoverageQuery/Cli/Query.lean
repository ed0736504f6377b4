import CoverageQuery.Axis.Reader
import CoverageQuery.Cli.Arguments
import CoverageQuery.Query.Basic

/-!
# Queries from the command line

A query over one coverage with the subsets of the command line, perhaps aggregated. The names are
checked first, then the subsets from left to right, then the aggregation.
-/

namespace CoverageQuery.Cli

/-- What is wrong with the arguments of a command. -/
inductive ArgumentError where
  | query (e : QueryError)
  | subset (text : String) (cause : QueryError)
  | aggregation (name : String)
deriving DecidableEq, Repr

def ofQuery {α : Type} (result : Except QueryError α) : Except ArgumentError α :=
  result.mapError .query

def readSubset (text : String) : Except ArgumentError AxisSubset :=
  (AxisSubset.parse text).mapError (.subset text)

def readAggregate (name : String) : Except ArgumentError AggregateOp :=
  match AggregateOp.ofName? name with
  | some op => .ok op
  | none => .error (.aggregation name)

namespace QueryArgs

/-- The coverage, bound to a variable. -/
def source (args : QueryArgs) (var : String) : Except ArgumentError Coverage := do
  let c ← ofQuery (Coverage.ofNames args.coverages var)
  match args.subsets with
  | [] => pure c
  | texts => do
    let axes ← texts.mapM readSubset
    ofQuery (c.setSubset axes)

/-- What the query returns of its source. -/
def result (args : QueryArgs) (c : Coverage) : Except ArgumentError Expr :=
  match args.aggregate with
  | none => pure (.coverage c)
  | some name => do
    let op ← readAggregate name
    ofQuery (Expr.aggregateOf op (.expr (.coverage c)))

def build (args : QueryArgs) (var : String) : Except ArgumentError Query := do
  let c ← args.source var
  let e ← args.result c
  ofQuery ((Query.ofCoverage c).returnValue (.expr e))

/-- The text of the query, encoded in the format if one is given. -/
def render (args : QueryArgs) (var : String) : Except ArgumentError String := do
  let q ← args.build var
  ofQuery (q.renderAs args.format)

end QueryArgs

end CoverageQuery.Cli
