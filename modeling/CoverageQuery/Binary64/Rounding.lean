import CoverageQuery.Binary64.Basic
import CoverageQuery.Decimal.Basic

/-!
# Rounding to double precision

The nearest value to a quotient of whole numbers, ties to the even rank. A quotient in steps of the
least positive value is divided by the power of two that leaves it one bit more than the fraction
has; rounding up into the next binade carries into the rank by itself.
-/

namespace CoverageQuery

/-- The quotient rounded to the nearest whole number, a half to the even neighbour. -/
def roundHalfEven (num den : Nat) : Nat :=
  let quotient := num / den
  match compare (2 * (num % den)) den with
  | .lt => quotient
  | .gt => quotient + 1
  | .eq => quotient + quotient % 2

/-- The rank whose value, in steps of the least positive value, is nearest to the quotient. -/
def nearestRank (width num den : Nat) : Nat :=
  let scale := (num / den).log2 - width
  scale * Nat.pow 2 width + roundHalfEven num (den * Nat.pow 2 scale)

/-- The least `k` with the value below `10 ^ k`, for a decimal that is not zero. -/
def Decimal.magnitude (d : Decimal) : Int := d.exponent + (digitChars d.digits).length

/-- The numerator and denominator of the absolute value in steps of `2 ^ -bits`. -/
def Decimal.steps (d : Decimal) (bits : Nat) : Nat × Nat :=
  (d.digits * Nat.pow 10 d.exponent.toNat * Nat.pow 2 bits, Nat.pow 10 (-d.exponent).toNat)

namespace Binary64

/-- The nearest double. Beyond `10 ^ 310` it is infinite and below `10 ^ -330` zero, so that no
power of ten is computed for an exponent out of all proportion. -/
def ofDecimal (d : Decimal) : Binary64 :=
  if d.digits = 0 ∨ d.magnitude < -330 then ofRank d.negative 0
  else if 310 < d.magnitude then infinite d.negative
  else ofRank d.negative (nearestRank 52 (d.steps 1074).1 (d.steps 1074).2)

def ofInt (n : Int) : Binary64 :=
  ofRank (n < 0) (nearestRank 52 (n.natAbs * Nat.pow 2 1074) 1)

/-- The nearest single precision number, as a double. -/
def ofDecimalSingle (d : Decimal) : Binary64 :=
  if d.digits = 0 ∨ d.magnitude < -330 then ofRank d.negative 0
  else if 310 < d.magnitude then infinite d.negative
  else
    let rank := nearestRank 23 (d.steps 149).1 (d.steps 149).2
    if 255 * Nat.pow 2 23 ≤ rank then infinite d.negative
    else ofRank d.negative (nearestRank 52 (rankUnits 23 rank * Nat.pow 2 1074) (Nat.pow 2 149))

end Binary64

end CoverageQuery
