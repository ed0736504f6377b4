import CoverageQuery.DateLabel
import CoverageQuery.Number
import CoverageQuery.Text.Blank

/-!
# Axis subsets

An axis subset restricts one named axis to a point or to an interval between two bounds of one
kind.
-/

namespace CoverageQuery

inductive Bound where
  | number (n : Number)
  | date (d : DateLabel)
deriving DecidableEq

namespace Bound

def SameKind : Bound → Bound → Prop
  | number _, number _ => True
  | date _, date _ => True
  | _, _ => False

instance : (a b : Bound) → Decidable (SameKind a b)
  | number _, number _ => isTrue trivial
  | date _, date _ => isTrue trivial
  | number _, date _ => isFalse id
  | date _, number _ => isFalse id

/-- Only a number can fail to be finite. -/
def IsFinite : Bound → Prop
  | number n => n.IsFinite
  | date _ => True

instance : DecidablePred IsFinite
  | number n => inferInstanceAs (Decidable n.IsFinite)
  | date _ => isTrue trivial

/-- The parts of a date are in range. -/
def WellFormed : Bound → Prop
  | number _ => True
  | date d => d.WellFormed

def sameValue : Bound → Bound → Bool
  | number m, number n => m.sameValue n
  | date c, date d => c == d
  | _, _ => false

def chars : Bound → List Char
  | number n => n.chars
  | date d => d.chars

end Bound

inductive AxisRange where
  | point (b : Bound)
  | interval (low high : Bound)
deriving DecidableEq

namespace AxisRange

def bounds : AxisRange → List Bound
  | point b => [b]
  | interval low high => [low, high]

/-- The two bounds of an interval are of one kind. -/
def Uniform : AxisRange → Prop
  | point _ => True
  | interval low high => low.SameKind high

instance : DecidablePred Uniform
  | point _ => isTrue trivial
  | interval low high => inferInstanceAs (Decidable (low.SameKind high))

def sameValue : AxisRange → AxisRange → Bool
  | point a, point b => a.sameValue b
  | interval a b, interval c d => a.sameValue c && b.sameValue d
  | _, _ => false

def chars : AxisRange → List Char
  | point b => b.chars
  | interval low high => low.chars ++ ':' :: high.chars

end AxisRange

structure AxisSubset where
  name : String
  range : AxisRange
deriving DecidableEq

namespace AxisSubset

structure WellFormed (a : AxisSubset) : Prop where
  name : ¬Text.Blank a.name
  uniform : a.range.Uniform
  finite : ∀ b ∈ a.range.bounds, b.IsFinite
  dates : ∀ b ∈ a.range.bounds, b.WellFormed

/-- Refuses a blank name first, then bounds of two kinds, then a bound that is not finite. -/
def ofRange (name : String) (range : AxisRange) : Except QueryError AxisSubset :=
  if Text.Blank name then .error (.invalidAxis .blankName)
  else if ¬range.Uniform then .error .mismatchedBounds
  else if ∀ b ∈ range.bounds, b.IsFinite then .ok ⟨name, range⟩
  else .error (.invalidAxis (.nonFinite name))

def rename (a : AxisSubset) (name : String) : Except QueryError AxisSubset :=
  if Text.Blank name then .error (.invalidAxis .blankName) else .ok { a with name := name }

def sameValue (a b : AxisSubset) : Bool := a.name == b.name && a.range.sameValue b.range

def chars (a : AxisSubset) : List Char := a.name.toList ++ '(' :: a.range.chars ++ [')']

def render (a : AxisSubset) : String := String.ofList a.chars

end AxisSubset

end CoverageQuery
