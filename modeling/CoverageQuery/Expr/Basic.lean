import CoverageQuery.Coverage
import CoverageQuery.Operator

/-!
# Expressions

The trees that a query computes. A binary node is always written in parentheses, so the text needs
no precedence.
-/

namespace CoverageQuery

inductive Expr where
  | coverage (c : Coverage)
  | arithmetic (left : Expr) (op : ArithmeticOp) (right : Expr)
  | comparison (left : Expr) (op : ComparisonOp) (right : Expr)
  | number (n : Number)
  | aggregate (op : AggregateOp) (argument : Expr)
  | unary (f : MathFunction) (argument : Expr)
  | binary (f : MathFunction) (first second : Expr)
deriving DecidableEq

namespace Expr

def kind : Expr → Kind
  | coverage _ => .coverage
  | arithmetic _ _ _ => .arithmetic
  | comparison _ _ _ => .comparison
  | number _ => .number
  | aggregate _ _ => .aggregation
  | unary _ _ | binary _ _ _ => .mathFunction

/-- Two operands around an operator, in parentheses. -/
def operationChars (left : List Char) (symbol : String) (right : List Char) : List Char :=
  '(' :: left ++ ' ' :: symbol.toList ++ ' ' :: right ++ [')']

/-- A name applied to an argument text. -/
def applied (name : String) (arguments : List Char) : List Char :=
  name.toList ++ '(' :: arguments ++ [')']

def chars : Expr → List Char
  | coverage c => c.chars
  | arithmetic left op right => operationChars left.chars op.symbol right.chars
  | comparison left op right => operationChars left.chars op.symbol right.chars
  | number n => n.chars
  | aggregate op argument => applied op.name argument.chars
  | unary f argument => applied f.name argument.chars
  | binary f first second => applied f.name (first.chars ++ ',' :: ' ' :: second.chars)

def render (e : Expr) : String := String.ofList e.chars

/-- Equality of trees in which numbers are compared by value. -/
def sameValue : Expr → Expr → Bool
  | coverage c, coverage d => c.sameValue d
  | arithmetic l op r, arithmetic l' op' r' => l.sameValue l' && op == op' && r.sameValue r'
  | comparison l op r, comparison l' op' r' => l.sameValue l' && op == op' && r.sameValue r'
  | number m, number n => m.sameValue n
  | aggregate op e, aggregate op' e' => op == op' && e.sameValue e'
  | unary f e, unary f' e' => f == f' && e.sameValue e'
  | binary f a b, binary f' a' b' => f == f' && a.sameValue a' && b.sameValue b'
  | _, _ => false

/-- What distinguishes a node from the others of its kind: a variable, a number, a symbol or a
name. -/
def label : Expr → String
  | coverage c => c.var
  | arithmetic _ op _ => op.symbol
  | comparison _ op _ => op.symbol
  | number n => String.ofList n.chars
  | aggregate op _ => op.name
  | unary f _ | binary f _ _ => f.name

/-- Every node with its kind, a node before its operands and these from left to right. -/
def outline : Expr → List (Kind × String)
  | coverage c => [((coverage c).kind, (coverage c).label)]
  | number n => [((number n).kind, (number n).label)]
  | arithmetic l op r =>
    ((arithmetic l op r).kind, (arithmetic l op r).label) :: l.outline ++ r.outline
  | comparison l op r =>
    ((comparison l op r).kind, (comparison l op r).label) :: l.outline ++ r.outline
  | aggregate op e => ((aggregate op e).kind, (aggregate op e).label) :: e.outline
  | unary f e => ((unary f e).kind, (unary f e).label) :: e.outline
  | binary f a b => ((binary f a b).kind, (binary f a b).label) :: a.outline ++ b.outline

end Expr

end CoverageQuery
