import CoverageQuery.Format
import CoverageQuery.Query.Tuple
import CoverageQuery.Switch

/-!
# Queries

A query iterates over one or more coverages and returns a payload. Every setter replaces the
payload, and one that fails leaves no query behind.
-/

namespace CoverageQuery

inductive Payload where
  | unset
  | expr (e : Expr)
  | switch (s : Switch)
  | grid (g : Grid)
  | clip (c : Clip)
deriving DecidableEq

namespace Payload

def sameValue : Payload → Payload → Bool
  | unset, unset => true
  | expr a, expr b => a.sameValue b
  | switch a, switch b => a.sameValue b
  | grid a, grid b => a.sameValue b
  | clip a, clip b => a.sameValue b
  | _, _ => false

/-- What is returned while nothing is set is the number one. -/
def chars : Payload → List Char
  | unset => ['1']
  | expr e => e.chars
  | switch s => s.chars
  | grid g => g.chars
  | clip c => c.chars

end Payload

structure Query where
  first : Coverage
  others : List Coverage
  payload : Payload
deriving DecidableEq

namespace Query

def coverages (q : Query) : List Coverage := q.first :: q.others

def ofCoverage (c : Coverage) : Query := ⟨c, [], .unset⟩

def ofCoverages : List Coverage → Except QueryError Query
  | [] => .error .noCoverage
  | c :: others => .ok ⟨c, others, .unset⟩

def withPayload (q : Query) (payload : Payload) : Query := { q with payload := payload }

def returnValue (q : Query) (v : Value) : Except QueryError Query := do
  let e ← v.operand
  pure (q.withPayload (.expr e))

def returnSwitch (q : Query) (s : Switch) : Query := q.withPayload (.switch s)

def switchOn (q : Query) (cases : List Case) (otherwise : Value) : Except QueryError Query := do
  let s ← Switch.ofCases cases otherwise
  pure (q.returnSwitch s)

def construct (q : Query) (tuples : List (List Value)) (op : ComparisonOp) :
    Except QueryError Query := do
  let g ← Grid.ofTuples tuples op
  pure (q.withPayload (.grid g))

/-- Clips the first coverage. -/
def clip (q : Query) (tuples : List (List Value)) : Except QueryError Query := do
  let c ← Clip.ofTuples q.first.var tuples
  pure (q.withPayload (.clip c))

def sameCoverages : List Coverage → List Coverage → Bool
  | [], [] => true
  | a :: as, b :: bs => a.sameValue b && sameCoverages as bs
  | _, _ => false

def sameValue (a b : Query) : Bool :=
  sameCoverages a.coverages b.coverages && a.payload.sameValue b.payload

def sourceChars (c : Coverage) : List Char :=
  c.var.toList ++ " in (".toList ++ c.namesChars ++ [')']

def clauseChars (q : Query) : List Char :=
  "for ".toList ++ Text.joined [',', '\n'] (q.coverages.map sourceChars)

/-- The payload, encoded in a format if one is given. -/
def returnChars (payload : Payload) : Option OutputFormat → List Char
  | none => payload.chars
  | some format =>
    "encode(".toList ++ payload.chars ++ ", \"".toList ++ format.name.toList ++ "\")".toList

def charsIn (q : Query) (format : Option OutputFormat) : List Char :=
  q.clauseChars ++ " return ".toList ++ returnChars q.payload format

def iterationClause (q : Query) : String := String.ofList q.clauseChars

def render (q : Query) : String := String.ofList (q.charsIn none)

/-- The text of the query, encoded in the named format if one is named. -/
def renderAs (q : Query) : Option String → Except QueryError String
  | none => .ok q.render
  | some name => do
    let format ← OutputFormat.known name
    pure (String.ofList (q.charsIn (some format)))

end Query

end CoverageQuery
