import CoverageQuery.QueryError

/-!
# Date labels

A year of four digits with an optional month and day. The parts are checked one by one, the day
only against 31. A label is written as specifically as its leading parts allow, so a day without a
month is not written.
-/

namespace CoverageQuery

structure DateLabel where
  year : Nat
  month : Option Nat
  day : Option Nat
deriving DecidableEq, Repr

namespace DateLabel

structure WellFormed (d : DateLabel) : Prop where
  year : DatePart.year.Allows d.year
  month : ∀ m, d.month = some m → DatePart.month.Allows m
  day : ∀ n, d.day = some n → DatePart.day.Allows n

def checkPart (part : DatePart) (found : Int) : Except QueryError Unit :=
  if part.Allows found then .ok () else .error (.invalidDate part found)

def checkPart? (part : DatePart) : Option Nat → Except QueryError Unit
  | none => .ok ()
  | some found => checkPart part found

/-- Checks the year, then the month, then the day. -/
def ofParts (year : Int) (month day : Option Nat) : Except QueryError DateLabel := do
  checkPart .year year
  checkPart? .month month
  checkPart? .day day
  pure ⟨year.toNat, month, day⟩

/-- A day that no month precedes. -/
def OrphanDay (d : DateLabel) : Prop := d.month = none ∧ d.day ≠ none

instance (d : DateLabel) : Decidable d.OrphanDay := inferInstanceAs (Decidable (_ ∧ _))

end DateLabel

/-- The digits of a number below a hundred, always two of them. -/
def twoDigits (n : Nat) : List Char := [Nat.digitChar (n / 10 % 10), Nat.digitChar (n % 10)]

namespace DateLabel

def parts (d : DateLabel) : List Char :=
  digitChars d.year ++
    match d.month, d.day with
    | none, _ => []
    | some m, none => '-' :: twoDigits m
    | some m, some n => '-' :: twoDigits m ++ '-' :: twoDigits n

def chars (d : DateLabel) : List Char := '"' :: d.parts ++ ['"']

end DateLabel

end CoverageQuery
