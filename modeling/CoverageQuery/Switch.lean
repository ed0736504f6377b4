import CoverageQuery.Expr.Operand

/-!
# Switches

Cases in the order in which the service tries them, and a result for when none applies. A
condition is a comparison; a result is a color or an operand.
-/

namespace CoverageQuery

structure Comparison where
  left : Expr
  op : ComparisonOp
  right : Expr
deriving DecidableEq

namespace Comparison

def toExpr (c : Comparison) : Expr := .comparison c.left c.op c.right

def ofValue : Value → Except QueryError Comparison
  | .expr (.comparison left op right) => .ok ⟨left, op, right⟩
  | v => .error (.condition v.kind)

end Comparison

inductive CaseResult where
  | color (c : Color)
  | expr (e : Expr)
deriving DecidableEq

namespace CaseResult

def ofValue : Value → Except QueryError CaseResult
  | .color c => .ok (.color c)
  | v => do
    let e ← v.operand
    pure (.expr e)

def kind : CaseResult → Kind
  | color _ => .color
  | expr e => e.kind

def sameValue : CaseResult → CaseResult → Bool
  | color c, color d => c == d
  | expr a, expr b => a.sameValue b
  | _, _ => false

def chars : CaseResult → List Char
  | color c => c.chars
  | expr e => e.chars

end CaseResult

structure Case where
  condition : Comparison
  result : CaseResult
deriving DecidableEq

namespace Case

/-- The condition is checked before the result. -/
def ofValues (condition result : Value) : Except QueryError Case := do
  let condition ← Comparison.ofValue condition
  let result ← CaseResult.ofValue result
  pure ⟨condition, result⟩

def setCondition (c : Case) (condition : Value) : Except QueryError Case := do
  let condition ← Comparison.ofValue condition
  pure { c with condition := condition }

def setResult (c : Case) (result : Value) : Except QueryError Case := do
  let result ← CaseResult.ofValue result
  pure { c with result := result }

def sameValue (a b : Case) : Bool :=
  a.condition.toExpr.sameValue b.condition.toExpr && a.result.sameValue b.result

def chars (c : Case) : List Char :=
  "case ".toList ++ c.condition.toExpr.chars ++ " return ".toList ++ c.result.chars

end Case

structure Switch where
  cases : List Case
  otherwise : CaseResult
deriving DecidableEq

namespace Switch

/-- That there is a case is checked before the default result. -/
def ofCases (cases : List Case) (otherwise : Value) : Except QueryError Switch :=
  if cases = [] then .error .emptyCases
  else do
    let otherwise ← CaseResult.ofValue otherwise
    pure ⟨cases, otherwise⟩

def setCases (s : Switch) (cases : List Case) : Except QueryError Switch :=
  if cases = [] then .error .emptyCases else .ok { s with cases := cases }

def setDefault (s : Switch) (otherwise : Value) : Except QueryError Switch := do
  let otherwise ← CaseResult.ofValue otherwise
  pure { s with otherwise := otherwise }

def sameCases : List Case → List Case → Bool
  | [], [] => true
  | a :: as, b :: bs => a.sameValue b && sameCases as bs
  | _, _ => false

def sameValue (a b : Switch) : Bool :=
  sameCases a.cases b.cases && a.otherwise.sameValue b.otherwise

/-- The line of each case and of the default, every line ended. -/
def chars (s : Switch) : List Char :=
  "switch\n".toList ++ s.cases.flatMap (fun c => c.chars ++ ['\n']) ++
    "default return ".toList ++ s.otherwise.chars ++ ['\n']

end Switch

end CoverageQuery
