/-!
# Decimals

A decimal is a signed whole number of a power of ten. `digitsValue` is the number that a row of
ASCII digits denotes and `digitChars` the row without leading zeros that denotes a number.
-/

namespace CoverageQuery

/-- The value `±digits · 10 ^ exponent`; zero keeps its sign. -/
structure Decimal where
  negative : Bool
  digits : Nat
  exponent : Int
deriving DecidableEq, Repr

abbrev digitChars (n : Nat) : List Char := Nat.toDigits 10 n

abbrev digitsValue (digits : List Char) : Nat := Nat.ofDigitChars 10 digits 0

theorem digitsValue_digitChars (n : Nat) : digitsValue (digitChars n) = n :=
  Nat.ofDigitChars_ten_toDigits

/-- A whole number with a sign only when it is negative. -/
def intChars (n : Int) : List Char :=
  if n < 0 then '-' :: digitChars n.natAbs else digitChars n.natAbs

end CoverageQuery
