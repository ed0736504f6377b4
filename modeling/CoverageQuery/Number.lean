import CoverageQuery.Binary64.Shortest
import CoverageQuery.Decimal.Numeral

/-!
# Numeric literals

A number is a 64-bit integer or a double, and the two are never confused: a double is always
written with a point or an exponent, an integer never. A numeral that is written as an integer
must fit one.
-/

namespace CoverageQuery

inductive Number where
  | int (value : Int64)
  | float (value : Binary64)
deriving DecidableEq

namespace Number

def IsFinite : Number → Prop
  | int _ => True
  | float x => x.IsFinite

instance : DecidablePred IsFinite
  | int _ => isTrue trivial
  | float x => inferInstanceAs (Decidable x.IsFinite)

/-- The value in double precision; an integer is rounded to the nearest double. -/
def toBinary64 : Number → Binary64
  | int n => .ofInt n.toInt
  | float x => x

/-- Equality of kind and numerical value. -/
def sameValue : Number → Number → Bool
  | int m, int n => m == n
  | float x, float y => x.sameValue y
  | _, _ => false

def chars : Number → List Char
  | int n => intChars n.toInt
  | float x => x.chars

end Number

/-- The integer, if it fits 64 bits. -/
def int64? (n : Int) : Option Int64 :=
  if Int64.minValue.toInt ≤ n ∧ n ≤ Int64.maxValue.toInt then some (Int64.ofInt n) else none

/-- The number that a numeral denotes; none for a whole number beyond 64 bits. -/
def Numeral.number? (n : Numeral) : Option Number :=
  if n.IsWhole then (int64? n.wholeValue).map .int else some (.float (.ofDecimal n.decimal))

end CoverageQuery
