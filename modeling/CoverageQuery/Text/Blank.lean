import CoverageQuery.Text.Every
import CoverageQuery.Text.Range

/-!
# White space

The 25 characters with the White_Space property, and the text that is left when they are taken off
both ends.
-/

namespace CoverageQuery.Text

def blankRanges : List (Nat × Nat) :=
  [(0x9, 0xD), (0x20, 0x20), (0x85, 0x85), (0xA0, 0xA0), (0x1680, 0x1680), (0x2000, 0x200A),
   (0x2028, 0x2029), (0x202F, 0x202F), (0x205F, 0x205F), (0x3000, 0x3000)]

def isBlank (c : Char) : Bool := inRanges blankRanges c.toNat

/-- The text without the white space at its two ends. -/
def trim (text : List Char) : List Char :=
  ((text.dropWhile isBlank).reverse.dropWhile isBlank).reverse

/-- Nothing but white space. -/
def Blank (text : String) : Prop := ∀ c ∈ text.toList, isBlank c = true

instance (text : String) : Decidable (Blank text) :=
  inferInstanceAs (Decidable (∀ c ∈ text.toList, isBlank c = true))

@[simp] theorem trim_nil : trim [] = [] := rfl

end CoverageQuery.Text
