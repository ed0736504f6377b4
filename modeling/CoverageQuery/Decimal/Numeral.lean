import CoverageQuery.Decimal.Basic
import CoverageQuery.Text.Every

/-!
# Numerals

The written form of a number: an optional minus, digits, an optional fraction and an optional
exponent. `Numeral.read?` takes the longest numeral off the front of a text; a point or an exponent
mark that no digit follows is left in place.
-/

namespace CoverageQuery

/-- The part of a numeral from its exponent mark on. -/
structure Numeral.Exponent where
  mark : Char
  sign : Option Char
  digits : List Char
deriving DecidableEq, Repr

structure Numeral where
  negative : Bool
  whole : List Char
  fraction : Option (List Char)
  exponent : Option Numeral.Exponent
deriving DecidableEq, Repr

namespace Numeral

/-- One or more ASCII digits. -/
def Digits (text : List Char) : Prop := text ≠ [] ∧ ∀ c ∈ text, c.isDigit = true

instance (text : List Char) : Decidable (Digits text) :=
  inferInstanceAs (Decidable (_ ∧ _))

def Exponent.WellFormed (e : Exponent) : Prop :=
  (e.mark = 'e' ∨ e.mark = 'E') ∧ (e.sign = none ∨ e.sign = some '+' ∨ e.sign = some '-') ∧
    Digits e.digits

structure WellFormed (n : Numeral) : Prop where
  whole : Digits n.whole
  fraction : ∀ digits, n.fraction = some digits → Digits digits
  exponent : ∀ e, n.exponent = some e → e.WellFormed

def Exponent.chars (e : Exponent) : List Char :=
  e.mark :: e.sign.toList ++ e.digits

def chars (n : Numeral) : List Char :=
  (if n.negative then ['-'] else []) ++ n.whole ++
    (match n.fraction with | some digits => '.' :: digits | none => []) ++
    (match n.exponent with | some e => e.chars | none => [])

def Exponent.value (e : Exponent) : Int :=
  if e.sign = some '-' then -(digitsValue e.digits : Int) else digitsValue e.digits

/-- Neither a fraction nor an exponent is written. -/
def IsWhole (n : Numeral) : Prop := n.fraction = none ∧ n.exponent = none

instance (n : Numeral) : Decidable n.IsWhole := inferInstanceAs (Decidable (_ ∧ _))

/-- The whole part with its sign. -/
def wholeValue (n : Numeral) : Int :=
  if n.negative then -(digitsValue n.whole : Int) else digitsValue n.whole

def decimal (n : Numeral) : Decimal :=
  let fraction := n.fraction.getD []
  { negative := n.negative
    digits := digitsValue (n.whole ++ fraction)
    exponent := (n.exponent.map Exponent.value).getD 0 - fraction.length }

/-- Digits at the front of the text, none if it starts with something else. -/
def takeDigits (text : List Char) : List Char × List Char :=
  (text.takeWhile Char.isDigit, text.dropWhile Char.isDigit)

def takeMinus : List Char → Bool × List Char
  | '-' :: rest => (true, rest)
  | text => (false, text)

def takeFraction : List Char → Option (List Char) × List Char
  | '.' :: rest =>
    match takeDigits rest with
    | ([], _) => (none, '.' :: rest)
    | (digits, rest) => (some digits, rest)
  | text => (none, text)

def takeSign : List Char → Option Char × List Char
  | c :: rest => if c = '+' ∨ c = '-' then (some c, rest) else (none, c :: rest)
  | [] => (none, [])

def takeExponent : List Char → Option Exponent × List Char
  | c :: rest =>
    if c = 'e' ∨ c = 'E' then
      match takeDigits (takeSign rest).2 with
      | ([], _) => (none, c :: rest)
      | (digits, rest') => (some ⟨c, (takeSign rest).1, digits⟩, rest')
    else (none, c :: rest)
  | [] => (none, [])

/-- The longest numeral at the front of the text, with what follows it. -/
def read? (text : List Char) : Option (Numeral × List Char) :=
  let (negative, afterMinus) := takeMinus text
  match takeDigits afterMinus with
  | ([], _) => none
  | (whole, afterWhole) =>
    let (fraction, afterFraction) := takeFraction afterWhole
    let (exponent, rest) := takeExponent afterFraction
    some (⟨negative, whole, fraction, exponent⟩, rest)

end Numeral

end CoverageQuery
