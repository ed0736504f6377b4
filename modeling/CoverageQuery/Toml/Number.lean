import CoverageQuery.Calendar
import CoverageQuery.Number
import CoverageQuery.Text.Hex
import CoverageQuery.Toml.Value

/-!
# TOML numbers, dates and times

Digits may be grouped by underscores that stand between digits. An integer is decimal without
leading zeros, or hexadecimal, octal or binary after a mark, and fits 64 bits.
-/

namespace CoverageQuery.Toml

/-- Further digits of a class, each perhaps after an underscore. -/
def moreDigits (isDigit : Char → Bool) : List Char → Option (List Char × List Char)
  | [] => some ([], [])
  | '_' :: rest =>
    match rest with
    | d :: rest =>
      if isDigit d then do
        let (digits, after) ← moreDigits isDigit rest
        some (d :: digits, after)
      else none
    | [] => none
  | c :: rest =>
    if isDigit c then do
      let (digits, after) ← moreDigits isDigit rest
      some (c :: digits, after)
    else some ([], c :: rest)

def groupedDigits (isDigit : Char → Bool) : List Char → Option (List Char × List Char)
  | [] => none
  | c :: rest =>
    if isDigit c then do
      let (digits, after) ← moreDigits isDigit rest
      some (c :: digits, after)
    else none

/-- Decimal digits without a leading zero. -/
def wholeDigits : List Char → Option (List Char × List Char)
  | '0' :: rest => some (['0'], rest)
  | text => groupedDigits Char.isDigit text

def isOctal (c : Char) : Bool := '0' ≤ c && c ≤ '7'

def isBinary (c : Char) : Bool := c == '0' || c == '1'

/-- The value of digits of a base. -/
def valueIn (base : Nat) (digits : List Char) : Nat :=
  (digits.filterMap Text.hexDigit?).foldl (fun value digit => base * value + digit) 0

def integerIn (base : Nat) (isDigit : Char → Bool) (text : List Char) :
    Option (Value × List Char) := do
  let (digits, after) ← groupedDigits isDigit text
  let n ← int64? (valueIn base digits)
  some (.integer n, after)

/-- The digits after a point, none if there is no point. -/
def fraction (text : List Char) : Option (Option (List Char) × List Char) :=
  match text with
  | '.' :: rest => do
    let (digits, after) ← groupedDigits Char.isDigit rest
    some (some digits, after)
  | _ => some (none, text)

/-- The exponent after its mark, none if there is no mark. -/
def exponent (text : List Char) : Option (Option Numeral.Exponent × List Char) :=
  match text with
  | c :: rest =>
    if c = 'e' ∨ c = 'E' then do
      let (sign, rest) := Numeral.takeSign rest
      let (digits, after) ← groupedDigits Char.isDigit rest
      some (some ⟨c, sign, digits⟩, after)
    else some (none, text)
  | [] => some (none, [])

/-- A float may be as small as it likes, but not beyond the largest one. -/
def Representable (n : Numeral) : Prop := Binary64.ofDecimal n.decimal ≠ .infinite false

instance (n : Numeral) : Decidable (Representable n) := inferInstanceAs (Decidable (_ ≠ _))

def decimalNumber (text : List Char) : Option (Value × List Char) := do
  let (sign, rest) := Numeral.takeSign text
  let (whole, rest) ← wholeDigits rest
  let (fraction, rest) ← fraction rest
  let (exponent, rest) ← exponent rest
  let n : Numeral := ⟨sign = some '-', whole, fraction, exponent⟩
  if n.IsWhole then do
    let value ← int64? n.wholeValue
    some (.integer value, rest)
  else if Representable n then some (.float, rest)
  else none

/-- A number of any kind at the front of the text. -/
def readNumber (text : List Char) : Option (Value × List Char) :=
  match text with
  | '0' :: 'x' :: rest => integerIn 16 (fun c => (Text.hexDigit? c).isSome) rest
  | '0' :: 'o' :: rest => integerIn 8 isOctal rest
  | '0' :: 'b' :: rest => integerIn 2 isBinary rest
  | _ =>
    match (Numeral.takeSign text).2 with
    | 'i' :: 'n' :: 'f' :: rest => some (.float, rest)
    | 'n' :: 'a' :: 'n' :: rest => some (.float, rest)
    | _ => decimalNumber text

/-- Exactly so many digits, with a value between two others. -/
def field (count low high : Nat) (text : List Char) : Option (Nat × List Char) :=
  let digits := text.take count
  let n := digitsValue digits
  if digits.length = count ∧ digits.all Char.isDigit ∧ low ≤ n ∧ n ≤ high then
    some (n, text.drop count)
  else none

def mark (c : Char) (text : List Char) : Option (List Char) :=
  match text with
  | d :: rest => if d = c then some rest else none
  | [] => none

/-- What follows a time of day. -/
def time? (text : List Char) : Option (List Char) := do
  let (_, text) ← field 2 0 23 text
  let text ← mark ':' text
  let (_, text) ← field 2 0 59 text
  let text ← mark ':' text
  let (_, text) ← field 2 0 60 text
  match text with
  | '.' :: rest =>
    match rest.takeWhile Char.isDigit with
    | [] => none
    | _ => some (rest.dropWhile Char.isDigit)
  | _ => some text

/-- What follows the offset of a time zone, which may be missing. -/
def offset (text : List Char) : Option (List Char) :=
  match text with
  | c :: rest =>
    if c = 'Z' ∨ c = 'z' then some rest
    else if c = '+' ∨ c = '-' then do
      let (_, rest) ← field 2 0 23 rest
      let rest ← mark ':' rest
      let (_, rest) ← field 2 0 59 rest
      some rest
    else some text
  | [] => some []

/-- What follows a day of the calendar. -/
def date? (text : List Char) : Option (List Char) := do
  let (year, text) ← field 4 0 9999 text
  let text ← mark '-' text
  let (month, text) ← field 2 1 12 text
  let text ← mark '-' text
  let (_, text) ← field 2 1 (daysInMonth year month) text
  some text

/-- What follows a date, a time or both at the front of the text. -/
def moment? (text : List Char) : Option (List Char) :=
  match date? text with
  | none => time? text
  | some rest =>
    match rest with
    | c :: next =>
      if c = 'T' ∨ c = 't' ∨ c = ' ' then
        match time? next with
        | some after => offset after
        | none => some rest
      else some rest
    | [] => some []

end CoverageQuery.Toml
