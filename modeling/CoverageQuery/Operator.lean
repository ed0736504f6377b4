/-!
# Operators and functions

The closed sets of operators, aggregations and mathematical functions, with the symbols under which
they are written and the names under which they are found.
-/

namespace CoverageQuery

inductive ArithmeticOp where
  | add | sub | mul | div
deriving DecidableEq, Repr

namespace ArithmeticOp

def all : List ArithmeticOp := [add, sub, mul, div]

def symbol : ArithmeticOp → String
  | add => "+"
  | sub => "-"
  | mul => "*"
  | div => "/"

def ofSymbol? (text : String) : Option ArithmeticOp := all.find? (·.symbol == text)

end ArithmeticOp

/-- Comparisons of values and the connectives of comparisons. -/
inductive ComparisonOp where
  | lt | le | eq | ne | gt | ge | and | or | xor
deriving DecidableEq, Repr

namespace ComparisonOp

def all : List ComparisonOp := [lt, le, eq, ne, gt, ge, and, or, xor]

def symbol : ComparisonOp → String
  | lt => "<"
  | le => "<="
  | eq => "="
  | ne => "!="
  | gt => ">"
  | ge => ">="
  | and => "and"
  | or => "or"
  | xor => "xor"

/-- Equality may also be written with two signs. -/
def ofSymbol? (text : String) : Option ComparisonOp :=
  if text = "==" then some eq else all.find? (·.symbol == text)

end ComparisonOp

inductive AggregateOp where
  | min | max | avg | sum | count
deriving DecidableEq, Repr

namespace AggregateOp

def all : List AggregateOp := [min, max, avg, sum, count]

def name : AggregateOp → String
  | min => "min"
  | max => "max"
  | avg => "avg"
  | sum => "sum"
  | count => "count"

/-- A name in any mixture of cases, or `average` for `avg`. No letter outside ASCII has a lower
case that occurs in these names. -/
def ofName? (text : String) : Option AggregateOp :=
  let lower := String.ofList (text.toList.map Char.toLower)
  if lower = "average" then some avg else all.find? (·.name == lower)

end AggregateOp

inductive MathFunction where
  | round | abs | floor | ceil | exp | ln | sqrt | mod | log | pow
  | sin | cos | tan | sinh | cosh | tanh | arcsin | arccos | arctan | atan2
deriving DecidableEq, Repr

namespace MathFunction

def all : List MathFunction :=
  [round, abs, floor, ceil, exp, ln, sqrt, mod, log, pow,
   sin, cos, tan, sinh, cosh, tanh, arcsin, arccos, arctan, atan2]

def name : MathFunction → String
  | round => "round"
  | abs => "abs"
  | floor => "floor"
  | ceil => "ceil"
  | exp => "exp"
  | ln => "ln"
  | sqrt => "sqrt"
  | mod => "mod"
  | log => "log"
  | pow => "pow"
  | sin => "sin"
  | cos => "cos"
  | tan => "tan"
  | sinh => "sinh"
  | cosh => "cosh"
  | tanh => "tanh"
  | arcsin => "arcsin"
  | arccos => "arccos"
  | arctan => "arctan"
  | atan2 => "atan2"

def arity : MathFunction → Nat
  | mod | log | pow | atan2 => 2
  | _ => 1

def ofName? (text : String) : Option MathFunction := all.find? (·.name == text)

end MathFunction

end CoverageQuery
