import CoverageQuery.Decimal.Basic
import CoverageQuery.Text.Hex
import CoverageQuery.Text.Scan

/-!
# Character references

The five named entities and the numeric ones. A text is readable when every ampersand in it begins
such a reference.
-/

namespace CoverageQuery.Xml

def named? (name : List Char) : Option Char :=
  match String.ofList name with
  | "lt" => some '<'
  | "gt" => some '>'
  | "amp" => some '&'
  | "apos" => some '\''
  | "quot" => some '"'
  | _ => none

/-- The character with a code point, none for zero and for what is no scalar value. -/
def charOf? (point : Nat) : Option Char :=
  if point ≠ 0 ∧ point.isValidChar then some (Char.ofNat point) else none

/-- A number in at most seven decimal digits, or in at most six hexadecimal ones after an `x`. -/
def numeric? : List Char → Option Char
  | 'x' :: digits => if digits.length ≤ 6 then Text.hexValue? digits >>= charOf? else none
  | digits =>
    if digits.length ≤ 7 ∧ digits.all Char.isDigit then charOf? (digitsValue digits) else none

def reference? : List Char → Option Char
  | '#' :: number => numeric? number
  | name => named? name

/-- The text with its references replaced, none if one of them cannot be read. -/
def unescape? (text : List Char) : Option (List Char) :=
  match text with
  | [] => some []
  | '&' :: rest =>
    match _h : rest.dropWhile (fun c => c != '&' && c != ';') with
    | ';' :: after => do
      let c ← reference? (rest.takeWhile (fun c => c != '&' && c != ';'))
      let tail ← unescape? after
      pure (c :: tail)
    | _ => none
  | c :: rest => do
    let tail ← unescape? rest
    pure (c :: tail)
termination_by text.length
decreasing_by
  · have := Text.length_dropWhile_le (fun c => c != '&' && c != ';') rest
    rw [_h, List.length_cons] at this
    simp only [List.length_cons]
    omega
  · simp

end CoverageQuery.Xml
