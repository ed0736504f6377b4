/-!
# Double precision numbers

A finite value is stored by its rank: the place of its absolute value among the non-negative finite
values, counted from zero. Ranks below `2 ^ 52` are the subnormal values; above, a rank holds the
binade and the fraction. `==` is the comparison of IEEE 754, under which the two zeros are equal
and not-a-number differs from itself.
-/

namespace CoverageQuery

inductive Binary64 where
  | nan
  | infinite (negative : Bool)
  | finite (negative : Bool) (rank : Fin (2047 * Nat.pow 2 52))
deriving DecidableEq, Repr

/-- The value of a rank in steps of the least positive value, for a fraction of `width` bits. -/
def rankUnits (width rank : Nat) : Nat :=
  if rank < Nat.pow 2 width then rank
  else (Nat.pow 2 width + rank % Nat.pow 2 width) * Nat.pow 2 (rank / Nat.pow 2 width - 1)

namespace Binary64

def IsFinite : Binary64 → Prop
  | finite _ _ => True
  | _ => False

instance : DecidablePred IsFinite
  | nan => isFalse id
  | infinite _ => isFalse id
  | finite _ _ => isTrue trivial

@[simp] theorem isFinite_finite (negative : Bool) (rank : Fin (2047 * Nat.pow 2 52)) :
    (finite negative rank).IsFinite := trivial

@[simp] theorem not_isFinite_infinite (negative : Bool) : ¬(infinite negative).IsFinite := id

@[simp] theorem not_isFinite_nan : ¬nan.IsFinite := id

/-- The finite value of a rank, or infinity for a rank beyond them. -/
def ofRank (negative : Bool) (rank : Nat) : Binary64 :=
  if h : rank < 2047 * Nat.pow 2 52 then finite negative ⟨rank, h⟩ else infinite negative

/-- Equality of numerical values. -/
def sameValue : Binary64 → Binary64 → Bool
  | infinite a, infinite b => a == b
  | finite a i, finite b j => i.val == j.val && (a == b || i.val == 0)
  | _, _ => false

end Binary64

end CoverageQuery
