import CoverageQuery.Axis.Reader
import CoverageQuery.Session.Object

/-!
# Recipes

How a value or an axis subset is to be built from literals, named objects and other recipes. The
parts are built from left to right, and variables that a failed recipe has taken stay taken.
-/

namespace CoverageQuery

inductive BoundRecipe where
  | number (n : Number)
  | date (year : Int) (month day : Option Nat)
deriving DecidableEq

inductive AxisRecipe where
  | point (name : String) (b : BoundRecipe)
  | interval (name : String) (low high : BoundRecipe)
  | text (t : String)
  | object (name : String)
deriving DecidableEq

inductive Recipe where
  | number (n : Number)
  | text (s : String)
  | bool (b : Bool)
  | date (year : Int) (month day : Option Nat)
  | color (red green blue : Int)
  | object (name : String)
  | coverage (names : List String) (subset : Option (List AxisRecipe))
  | arithmetic (left : Recipe) (op : ArithmeticOp) (right : Recipe)
  | comparison (left : Recipe) (op : ComparisonOp) (right : Recipe)
  | aggregate (op : AggregateOp) (argument : Recipe)
  | unary (f : MathFunction) (argument : Recipe)
  | binary (f : MathFunction) (first second : Recipe)
deriving DecidableEq

/-- Something that is built with variables from a supply, which is there also after a failure. -/
abbrev Build := ExceptT SessionError (StateM VariableSupply)

namespace Build

/-- A result that takes no variable. -/
def ofQuery {α : Type} : Except QueryError α → Build α
  | .ok a => pure a
  | .error e => throw (.query e)

/-- The latest object of a name, seen as one of a kind. -/
def find {α : Type} (view : Object → Option α) (objects : Objects) (name : String) : Build α :=
  match (objects.lookup name).bind view with
  | some a => pure a
  | none => throw (.noObject name)

def expression : Value → Build Expr
  | .expr e => pure e
  | v => throw (.notExpression v.kind)

def coverage (names : List String) : Build Coverage :=
  ExceptT.mk fun supply =>
    let (c, supply) := Coverage.allocate names supply
    (c.mapError .query, supply)

end Build

def BoundRecipe.build : BoundRecipe → Except QueryError Bound
  | number n => .ok (.number n)
  | date year month day => do
    let d ← DateLabel.ofParts year month day
    pure (.date d)

/-- The bounds are built before the subset, the low one first. -/
def AxisRecipe.build (objects : Objects) : AxisRecipe → Build AxisSubset
  | point name b => Build.ofQuery do
    let b ← b.build
    AxisSubset.ofRange name (.point b)
  | interval name low high => Build.ofQuery do
    let low ← low.build
    let high ← high.build
    AxisSubset.ofRange name (.interval low high)
  | text t => Build.ofQuery (AxisSubset.parse t)
  | object name => Build.find Object.axis? objects name

/-- A coverage takes its variable before its axes are built. -/
def Recipe.build (objects : Objects) : Recipe → Build Value
  | number n => pure (.expr (.number n))
  | text s => pure (.text s)
  | bool b => pure (.bool b)
  | date year month day => do
    let d ← Build.ofQuery (DateLabel.ofParts year month day)
    pure (.date d)
  | color red green blue => do
    let c ← Build.ofQuery (Color.ofChannels red green blue)
    pure (.color c)
  | object name => Build.find Object.value? objects name
  | coverage names none => do
    let c ← Build.coverage names
    pure (.expr (.coverage c))
  | coverage names (some axes) => do
    let c ← Build.coverage names
    let axes ← axes.mapM (AxisRecipe.build objects)
    let c ← Build.ofQuery (c.setSubset axes)
    pure (.expr (.coverage c))
  | arithmetic left op right => do
    let left ← left.build objects
    let right ← right.build objects
    let left ← Build.expression left
    let e ← Build.ofQuery (Expr.arithmeticOf left op right)
    pure (.expr e)
  | comparison left op right => do
    let left ← left.build objects
    let right ← right.build objects
    let left ← Build.expression left
    let e ← Build.ofQuery (Expr.comparisonOf left op right)
    pure (.expr e)
  | aggregate op argument => do
    let argument ← argument.build objects
    let e ← Build.ofQuery (Expr.aggregateOf op argument)
    pure (.expr e)
  | unary f argument => do
    let argument ← argument.build objects
    let e ← Build.ofQuery (Expr.unaryOf f argument)
    pure (.expr e)
  | binary f first second => do
    let first ← first.build objects
    let second ← second.build objects
    let e ← Build.ofQuery (Expr.binaryOf f first second)
    pure (.expr e)

end CoverageQuery
