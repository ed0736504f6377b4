import CoverageQuery.Text.CombiningClass
import CoverageQuery.Text.Composition

/-!
# Normal form

A text with its marks in canonical order and every character composed that can be. Two spellings of
one text have one normal form, provided that neither holds a character that merely duplicates
another one.
-/

namespace CoverageQuery.Text

/-- The parts of a character, in turn taken apart. Three times are enough for every character. -/
def expand : Nat → Char → List Char
  | 0, c => [c]
  | depth + 1, c =>
    match parts? c with
    | some (first, second) => expand depth first ++ expand depth second
    | none => [c]

def decompose (text : List Char) : List Char := text.flatMap (expand 3)

/-- Puts a mark after those marks of a lower class that stand at the front. -/
def insertMark (mark : Char) : List Char → List Char
  | [] => [mark]
  | c :: rest =>
    if combiningClass c ≠ 0 ∧ combiningClass c < combiningClass mark then c :: insertMark mark rest
    else mark :: c :: rest

/-- Each run of marks in ascending order of their classes, marks of one class as they were. -/
def orderMarks : List Char → List Char
  | [] => []
  | c :: rest => insertMark c (orderMarks rest)

/-- Composes a base with what follows it, given the marks between them in reverse, which do not
compose with it. -/
def composeFrom (base : Char) (between : List Char) : List Char → List Char
  | [] => base :: between.reverse
  | c :: rest =>
    let reaches := between.all fun mark => combiningClass mark < combiningClass c
    match if reaches then compose? base c else none with
    | some whole => composeFrom whole between rest
    | none =>
      if combiningClass c = 0 then base :: between.reverse ++ composeFrom c [] rest
      else composeFrom base (c :: between) rest

def compose : List Char → List Char
  | [] => []
  | c :: rest => if combiningClass c = 0 then composeFrom c [] rest else c :: compose rest

def normalForm (text : List Char) : List Char := compose (orderMarks (decompose text))

/-- Whether a text is its own normal form. -/
def IsNormal (text : List Char) : Prop := normalForm text = text

instance (text : List Char) : Decidable (IsNormal text) :=
  inferInstanceAs (Decidable (normalForm text = text))

end CoverageQuery.Text
