import CoverageQuery.Color
import CoverageQuery.Expr.Basic

/-!
# Operands

Anything may be offered as an operand; what is not an expression, and a number that is not finite,
is refused. Every node is built through this gate for each of its operands but the left one of a
binary node, which is an expression already.
-/

namespace CoverageQuery

/-- A value offered as an operand. -/
inductive Value where
  | expr (e : Expr)
  | text (s : String)
  | bool (b : Bool)
  | date (d : DateLabel)
  | color (c : Color)
deriving DecidableEq

namespace Value

def kind : Value → Kind
  | expr e => e.kind
  | text _ => .text
  | bool _ => .boolean
  | date _ => .date
  | color _ => .color

def number? : Value → Option Number
  | expr (.number n) => some n
  | _ => none

/-- Why the value may not be an operand, none if it may. -/
def fault? : Value → Option OperandFault
  | expr (.number n) => if n.IsFinite then none else some .nonFinite
  | expr _ => none
  | v => some (.kind v.kind)

def validate (v : Value) : Except QueryError Unit :=
  match v.fault? with
  | some fault => .error (.operand fault)
  | none => .ok ()

/-- The expression that the value is, if it may be an operand. -/
def operand (v : Value) : Except QueryError Expr := do
  v.validate
  match v with
  | expr e => .ok e
  | v => .error (.operand (.kind v.kind))

def sameValue : Value → Value → Bool
  | expr a, expr b => a.sameValue b
  | text s, text t => s == t
  | bool a, bool b => a == b
  | date c, date d => c == d
  | color c, color d => c == d
  | _, _ => false

end Value

namespace Expr

def arithmeticOf (left : Expr) (op : ArithmeticOp) (right : Value) : Except QueryError Expr := do
  let right ← right.operand
  pure (arithmetic left op right)

def comparisonOf (left : Expr) (op : ComparisonOp) (right : Value) : Except QueryError Expr := do
  let right ← right.operand
  pure (comparison left op right)

def aggregateOf (op : AggregateOp) (argument : Value) : Except QueryError Expr := do
  let argument ← argument.operand
  pure (aggregate op argument)

/-- The number of arguments is checked before the argument. -/
def unaryOf (f : MathFunction) (argument : Value) : Except QueryError Expr :=
  if f.arity = 1 then do
    let argument ← argument.operand
    pure (unary f argument)
  else .error (.arity f.arity 1)

/-- The number of arguments is checked before the arguments. -/
def binaryOf (f : MathFunction) (first second : Value) : Except QueryError Expr :=
  if f.arity = 2 then do
    let first ← first.operand
    let second ← second.operand
    pure (binary f first second)
  else .error (.arity f.arity 2)

end Expr

end CoverageQuery
