import CoverageQuery.Decimal.Basic
import CoverageQuery.Text.Hex
import CoverageQuery.Text.Joined
import CoverageQuery.Text.Scan

/-!
# Numeric addresses

The numbers that may stand in the place of a host name. An IPv4 address has up to four parts, each
decimal, octal or hexadecimal, and the last one fills what the others leave. An IPv6 address has
eight pieces, and two colons in a row stand for pieces that are zero.
-/

namespace CoverageQuery.Url

namespace Ipv4

def isOctal (c : Char) : Bool := '0' ≤ c && c ≤ '7'

/-- A part of an address. Nothing after `0x` is zero. -/
def part? (text : List Char) : Option Nat :=
  match text with
  | [] => none
  | '0' :: 'x' :: digits => Text.hexValue? digits
  | '0' :: d :: digits =>
    if (d :: digits).all isOctal then some (Nat.ofDigitChars 8 (d :: digits) 0) else none
  | digits => if digits.all Char.isDigit then some (digitsValue digits) else none

/-- The parts of a name, which a full stop may end. -/
def parts (name : List Char) : List (List Char) :=
  match (Text.fields '.' name).reverse with
  | [] :: last :: rest => (last :: rest).reverse
  | all => all.reverse

/-- A name is taken for an address if its last part is a number. -/
def IsMeant (name : List Char) : Prop :=
  ∃ part ∈ (parts name).getLast?, (part ≠ [] ∧ part.all Char.isDigit) ∨ (part? part).isSome

instance (name : List Char) : Decidable (IsMeant name) := by
  unfold IsMeant
  cases (parts name).getLast? with
  | none => exact isFalse fun ⟨_, h, _⟩ => nomatch h
  | some part =>
    exact decidable_of_iff ((part ≠ [] ∧ part.all Char.isDigit) ∨ (part? part).isSome)
      ⟨fun h => ⟨part, rfl, h⟩, fun ⟨_, hp, h⟩ => by cases hp; exact h⟩

/-- The number that some parts denote in so many bytes. -/
def value? : Nat → List Nat → Option Nat
  | bytes + 1, [last] => if last < Nat.pow 256 (bytes + 1) then some last else none
  | bytes + 1, part :: rest =>
    if part < 256 then (value? bytes rest).map (part * Nat.pow 256 bytes + ·) else none
  | _, _ => none

def read? (name : List Char) : Option Nat := (parts name).mapM part? >>= value? 4

def chars (address : Nat) : List Char :=
  Text.joined ['.'] ([24, 16, 8, 0].map fun shift => digitChars (address / Nat.pow 2 shift % 256))

end Ipv4

namespace Ipv6

def piece? (text : List Char) : Option Nat :=
  if text ≠ [] ∧ text.length ≤ 4 then Text.hexValue? text else none

/-- A number below 256 without a leading zero. -/
def byte? (text : List Char) : Option Nat :=
  if text ≠ [] ∧ text.all Char.isDigit ∧ (text.head? = some '0' → text.length = 1) ∧
      digitsValue text < 256 then
    some (digitsValue text)
  else none

/-- Two pieces in the form of four bytes. -/
def quad? (text : List Char) : Option (List Nat) := do
  match ← (Text.fields '.' text).mapM byte? with
  | [a, b, c, d] => some [256 * a + b, 256 * c + d]
  | _ => none

/-- Pieces between colons, the last two perhaps as four bytes. -/
def pieces? (quads : Bool) (text : List Char) : Option (List Nat) :=
  if text = [] then some []
  else
    let fields := Text.fields ':' text
    match fields.mapM piece? with
    | some pieces => some pieces
    | none =>
      if quads then do
        let before ← fields.dropLast.mapM piece?
        let last ← quad? (fields.getLast?.getD [])
        some (before ++ last)
      else none

/-- The text before and after the first two colons in a row. -/
def splitGap? : List Char → Option (List Char × List Char)
  | ':' :: ':' :: rest => some ([], rest)
  | c :: rest => (splitGap? rest).map fun (before, after) => (c :: before, after)
  | [] => none

def read? (text : List Char) : Option (List Nat) :=
  match splitGap? text with
  | none => (pieces? true text).filter (·.length = 8)
  | some (before, after) => do
    let left ← pieces? false before
    let right ← pieces? true after
    if left.length + right.length < 8 then
      some (left ++ List.replicate (8 - left.length - right.length) 0 ++ right)
    else none

/-- The number of zeros that a list begins with. -/
def zeros (pieces : List Nat) : Nat := (pieces.takeWhile (· == 0)).length

/-- The longest run of zeros, the first of these, and the pieces before and after it. -/
def gap : List Nat → List Nat × Nat × List Nat
  | [] => ([], 0, [])
  | piece :: rest =>
    let run := zeros (piece :: rest)
    let (before, later, after) := gap rest
    if later ≤ run then ([], run, (piece :: rest).drop run) else (piece :: before, later, after)

def hexChars (pieces : List Nat) : List Char := Text.joined [':'] (pieces.map (Nat.toDigits 16))

/-- An address between brackets, with two colons in the place of two or more zeros. -/
def chars (pieces : List Nat) : List Char :=
  let (before, run, after) := gap pieces
  let inner :=
    if run < 2 then hexChars pieces else hexChars before ++ [':', ':'] ++ hexChars after
  '[' :: inner ++ [']']

end Ipv6

end CoverageQuery.Url
