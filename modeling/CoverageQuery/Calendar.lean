import CoverageQuery.DateLabel

/-!
# Calendar days

Days of the proleptic Gregorian calendar in the range of years that a calendar day can have, and
the full label of such a day.
-/

namespace CoverageQuery

def IsLeapYear (year : Int) : Prop := year % 4 = 0 ∧ (year % 100 ≠ 0 ∨ year % 400 = 0)

instance (year : Int) : Decidable (IsLeapYear year) := inferInstanceAs (Decidable (_ ∧ _))

/-- The number of days of a month, zero for a month that does not exist. -/
def daysInMonth (year : Int) (month : Nat) : Nat :=
  match month with
  | 2 => if IsLeapYear year then 29 else 28
  | 4 | 6 | 9 | 11 => 30
  | 1 | 3 | 5 | 7 | 8 | 10 | 12 => 31
  | _ => 0

structure CalendarDay where
  year : Int
  month : Nat
  day : Nat
deriving DecidableEq, Repr

namespace CalendarDay

def Exists (d : CalendarDay) : Prop :=
  (-262143 ≤ d.year ∧ d.year ≤ 262142) ∧ 1 ≤ d.day ∧ d.day ≤ daysInMonth d.year d.month

instance (d : CalendarDay) : Decidable d.Exists := inferInstanceAs (Decidable (_ ∧ _))

def label (d : CalendarDay) : Except QueryError DateLabel :=
  DateLabel.ofParts d.year (some d.month) (some d.day)

end CalendarDay

end CoverageQuery
