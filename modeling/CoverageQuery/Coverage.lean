import CoverageQuery.Axis.Basic
import CoverageQuery.Text.Joined

/-!
# Coverages

A coverage names one or more remote coverages, is bound to an iteration variable and may be
restricted to some of its axes. Variables come from a supply whose counter wraps around at 64 bits.
-/

namespace CoverageQuery

/-- The number of the next variable. -/
structure VariableSupply where
  next : UInt64
deriving DecidableEq, Repr

def variableName (n : UInt64) : String := String.ofList ('$' :: 'i' :: digitChars n.toNat)

namespace VariableSupply

/-- The variable handed out next, and the supply that is left. -/
def take (s : VariableSupply) : String × VariableSupply := (variableName s.next, ⟨s.next + 1⟩)

end VariableSupply

structure Coverage where
  names : List String
  var : String
  subset : Option (List AxisSubset)
deriving DecidableEq

namespace Coverage

/-- At least one name, and none of them blank. -/
def ValidNames (names : List String) : Prop := names ≠ [] ∧ ∀ name ∈ names, ¬Text.Blank name

instance (names : List String) : Decidable (ValidNames names) :=
  inferInstanceAs (Decidable (_ ∧ _))

structure WellFormed (c : Coverage) : Prop where
  names : ValidNames c.names
  subset : ∀ axes, c.subset = some axes → axes ≠ [] ∧ ∀ a ∈ axes, a.WellFormed

/-- The whole of the named coverages, bound to a variable. -/
def ofNames (names : List String) (var : String) : Except QueryError Coverage :=
  if ValidNames names then .ok ⟨names, var, none⟩ else .error .noCoverage

/-- A coverage bound to the next variable of a supply. Names that are refused use none up. -/
def allocate (names : List String) (supply : VariableSupply) :
    Except QueryError Coverage × VariableSupply :=
  match ofNames names supply.take.1 with
  | .ok c => (.ok c, supply.take.2)
  | .error e => (.error e, supply)

def setVariable (c : Coverage) (var : String) : Coverage := { c with var := var }

def setNames (c : Coverage) (names : List String) : Except QueryError Coverage :=
  if ValidNames names then .ok { c with names := names } else .error .noCoverage

def setSubset (c : Coverage) (axes : List AxisSubset) : Except QueryError Coverage :=
  if axes = [] then .error .emptySubset else .ok { c with subset := some axes }

def clearSubset (c : Coverage) : Coverage := { c with subset := none }

/-- The names as they stand in an iteration clause. -/
def namesChars (c : Coverage) : List Char := Text.joined [',', ' '] (c.names.map String.toList)

def sameAxes : List AxisSubset → List AxisSubset → Bool
  | [], [] => true
  | a :: as, b :: bs => a.sameValue b && sameAxes as bs
  | _, _ => false

def sameSubset : Option (List AxisSubset) → Option (List AxisSubset) → Bool
  | none, none => true
  | some as, some bs => sameAxes as bs
  | _, _ => false

def sameValue (a b : Coverage) : Bool :=
  a.names == b.names && a.var == b.var && sameSubset a.subset b.subset

def subsetChars : Option (List AxisSubset) → List Char
  | none => []
  | some axes => '[' :: Text.joined [',', ' '] (axes.map AxisSubset.chars) ++ [']']

def chars (c : Coverage) : List Char := c.var.toList ++ subsetChars c.subset

end Coverage

end CoverageQuery
