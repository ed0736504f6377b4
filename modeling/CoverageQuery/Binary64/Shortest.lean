import CoverageQuery.Binary64.Rounding

/-!
# The written form of a double

A finite value is written with the fewest digits that read back to it, the nearest of these if
there are several and the upper one if two are equally near. Values from `10 ^ -4` up to `10 ^ 16`
are written positionally and always with a fraction, others with an exponent.
-/

namespace CoverageQuery

namespace Binary64

/-- The exact value of a rank in steps of `10 ^ -1074`. -/
def exactSteps (rank : Nat) : Nat := rankUnits 52 rank * Nat.pow 5 1074

def ReadsBack (rank : Nat) (d : Decimal) : Prop := ofDecimal d = ofRank false rank

instance (rank : Nat) (d : Decimal) : Decidable (ReadsBack rank d) :=
  inferInstanceAs (Decidable (_ = _))

/-- Of the two neighbours of the value among the decimals with `count` digits, the one to write,
if either reads back. `length` is the number of digits of the exact value. -/
def neighbour? (rank length count : Nat) : Option Decimal :=
  let step := Nat.pow 10 (length - count)
  let exponent : Int := ((length - count : Nat) : Int) - 1074
  let lower : Decimal := ⟨false, exactSteps rank / step, exponent⟩
  let upper : Decimal :=
    if lower.digits + 1 = Nat.pow 10 count then ⟨false, 1, exponent + count⟩
    else ⟨false, lower.digits + 1, exponent⟩
  if ReadsBack rank lower ∧ (2 * (exactSteps rank % step) < step ∨ ¬ReadsBack rank upper) then
    some lower
  else if ReadsBack rank upper then some upper
  else none

/-- The decimal to write for a rank. Seventeen digits are enough for every double; were they not,
the exact value would be written. -/
def shortest (rank : Nat) : Decimal :=
  let length := (digitChars (exactSteps rank)).length
  ((List.range 17).findSome? fun i => neighbour? rank length (i + 1)).getD
    ⟨false, exactSteps rank, -1074⟩

/-- Digits with the decimal point after the first `point` of them, and a fraction in any case. -/
def positional (digits : List Char) (point : Int) : List Char :=
  if point ≤ 0 then '0' :: '.' :: List.replicate (-point).toNat '0' ++ digits
  else if digits.length ≤ point.toNat then
    digits ++ List.replicate (point.toNat - digits.length) '0' ++ ['.', '0']
  else digits.take point.toNat ++ '.' :: digits.drop point.toNat

/-- One digit before the point, and the power of ten that this leaves. -/
def scientific (digits : List Char) (exponent : Int) : List Char :=
  match digits with
  | [] => []
  | [c] => c :: 'e' :: intChars exponent
  | c :: rest => c :: '.' :: rest ++ 'e' :: intChars exponent

/-- The written form of a decimal without its sign. -/
def magnitudeChars (d : Decimal) : List Char :=
  let digits := digitChars d.digits
  let point := d.exponent + digits.length
  if d.digits = 0 then ['0', '.', '0']
  else if -3 ≤ point ∧ point ≤ 16 then positional digits point
  else scientific digits (point - 1)

def chars : Binary64 → List Char
  | nan => ['N', 'a', 'N']
  | infinite negative => (if negative then ['-'] else []) ++ ['i', 'n', 'f']
  | finite negative rank =>
    (if negative then ['-'] else []) ++ magnitudeChars (shortest rank)

end Binary64

end CoverageQuery
