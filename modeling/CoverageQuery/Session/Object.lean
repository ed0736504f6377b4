import CoverageQuery.Query.Basic

/-!
# Named objects

The objects that a session builds and changes. An object found under a name is a copy: what it is
built into does not change with it.
-/

namespace CoverageQuery

inductive Object where
  | coverage (c : Coverage)
  | axis (a : AxisSubset)
  | value (v : Value)
  | case (c : Case)
  | switch (s : Switch)
  | query (q : Query)
deriving DecidableEq

namespace Object

def sameValue : Object → Object → Bool
  | coverage a, coverage b => a.sameValue b
  | axis a, axis b => a.sameValue b
  | value a, value b => a.sameValue b
  | case a, case b => a.sameValue b
  | switch a, switch b => a.sameValue b
  | query a, query b => a.sameValue b
  | _, _ => false

/-- A coverage is an expression and so a value. -/
def value? : Object → Option Value
  | coverage c => some (.expr (.coverage c))
  | value v => some v
  | _ => none

def coverage? : Object → Option Coverage
  | coverage c => some c
  | _ => none

def axis? : Object → Option AxisSubset
  | axis a => some a
  | _ => none

def case? : Object → Option Case
  | case c => some c
  | _ => none

def switch? : Object → Option Switch
  | switch s => some s
  | _ => none

def query? : Object → Option Query
  | query q => some q
  | _ => none

end Object

/-- Named objects, the latest first. A later object hides an earlier one of its name. -/
abbrev Objects := List (String × Object)

/-- Why an operation of a session fails. -/
inductive SessionError where
  | query (e : QueryError)
  /-- No object of the right kind has this name. -/
  | noObject (name : String)
  /-- The object does not have such a property. -/
  | notApplicable
  /-- A left operand is not an expression. -/
  | notExpression (found : Kind)
deriving DecidableEq, Repr

end CoverageQuery
