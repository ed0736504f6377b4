/-!
# Hexadecimal digits

The values of digits in either case, alone and in a row.
-/

namespace CoverageQuery.Text

def hexDigit? (c : Char) : Option Nat :=
  if c.isDigit then some (c.toNat - '0'.toNat)
  else if 'a' ≤ c ∧ c ≤ 'f' then some (c.toNat - 'a'.toNat + 10)
  else if 'A' ≤ c ∧ c ≤ 'F' then some (c.toNat - 'A'.toNat + 10)
  else none

def hexValue? (digits : List Char) : Option Nat :=
  (digits.mapM hexDigit?).map (·.foldl (fun value digit => 16 * value + digit) 0)

end CoverageQuery.Text
