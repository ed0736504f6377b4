/-!
# Classes of characters

A class beyond ASCII is a table of closed ranges of code points, in ascending order, and each range
may have a value. Looking a character up stops at the first range that ends at or after it.
-/

namespace CoverageQuery.Text

/-- Is the code point in one of the ascending ranges? -/
def inRanges : List (Nat × Nat) → Nat → Bool
  | [], _ => false
  | (low, high) :: ranges, point => if point ≤ high then low ≤ point else inRanges ranges point

@[simp] theorem inRanges_nil (point : Nat) : inRanges [] point = false := rfl

theorem inRanges_cons (low high point : Nat) (ranges : List (Nat × Nat)) :
    inRanges ((low, high) :: ranges) point =
      if point ≤ high then decide (low ≤ point) else inRanges ranges point := rfl

/-- The value of the range that the code point is in. -/
def valueIn? {α : Type} : List (Nat × Nat × α) → Nat → Option α
  | [], _ => none
  | (low, high, value) :: ranges, point =>
    if point ≤ high then if low ≤ point then some value else none else valueIn? ranges point

@[simp] theorem valueIn?_nil {α : Type} (point : Nat) :
    valueIn? ([] : List (Nat × Nat × α)) point = none := rfl

end CoverageQuery.Text
