import CoverageQuery.Text.Hex
import CoverageQuery.Toml.Blank

/-!
# TOML strings

Strings between double quotes, in which a backslash begins an escape, and between single quotes, in
which it does not; each kind also between three quotes, where the string may have several lines.
-/

namespace CoverageQuery.Toml

/-- The character with a code in a row of hexadecimal digits. -/
def charOfHex? (digits : List Char) : Option Char := do
  let point ← Text.hexValue? digits
  if point.isValidChar then some (Char.ofNat point) else none

/-- The character of an escape, given the text after the backslash, and the number of characters
that the escape takes. -/
def escape? : List Char → Option (Char × Nat)
  | 'b' :: _ => some ('\x08', 1)
  | 't' :: _ => some ('\t', 1)
  | 'n' :: _ => some ('\n', 1)
  | 'f' :: _ => some ('\x0c', 1)
  | 'r' :: _ => some ('\r', 1)
  | '"' :: _ => some ('"', 1)
  | '\\' :: _ => some ('\\', 1)
  | 'u' :: rest =>
    if 4 ≤ rest.length then (charOfHex? (rest.take 4)).map (·, 5) else none
  | 'U' :: rest =>
    if 8 ≤ rest.length then (charOfHex? (rest.take 8)).map (·, 9) else none
  | _ => none

/-- The rest of a string that began with a double quote. -/
def basicString (text : List Char) : Option (List Char × List Char) :=
  match text with
  | [] => none
  | '"' :: rest => some ([], rest)
  | '\\' :: rest => do
    let (c, taken) ← escape? rest
    let (content, after) ← basicString (rest.drop taken)
    some (c :: content, after)
  | c :: rest =>
    if isPlain c then do
      let (content, after) ← basicString rest
      some (c :: content, after)
    else none
termination_by text.length
decreasing_by all_goals simp only [List.length_cons, List.length_drop]; omega

/-- The rest of a string that began with a single quote. -/
def literalString : List Char → Option (List Char × List Char)
  | [] => none
  | '\'' :: rest => some ([], rest)
  | c :: rest =>
    if isPlain c then do
      let (content, after) ← literalString rest
      some (c :: content, after)
    else none

/-- After three quotes, the further quotes that belong to the string, at most two. -/
def closing (quote : Char) (rest : List Char) : List Char × List Char :=
  let extra := min 2 (rest.takeWhile (· == quote)).length
  (List.replicate extra quote, rest.drop extra)

def skipSpacesAndLineEnds : List Char → List Char
  | '\r' :: '\n' :: rest => skipSpacesAndLineEnds rest
  | c :: rest => if isSpace c ∨ c = '\n' then skipSpacesAndLineEnds rest else c :: rest
  | [] => []

theorem length_skipSpacesAndLineEnds_le (text : List Char) :
    (skipSpacesAndLineEnds text).length ≤ text.length := by
  fun_induction skipSpacesAndLineEnds text with
  | case1 rest ih => simp only [List.length_cons]; omega
  | case2 c rest _ _ ih => simp only [List.length_cons]; omega
  | case3 c rest _ _ => exact Nat.le_refl _
  | case4 => exact Nat.le_refl _

/-- The rest of a string that began with three double quotes. A line end is one character however
it is written, and an escaped one is skipped with all white space after it. -/
def basicLines (text : List Char) : Option (List Char × List Char) :=
  match text with
  | [] => none
  | '"' :: '"' :: '"' :: rest => some (closing '"' rest)
  | '\\' :: rest =>
    match _h : lineEnd? (skipSpaces rest) with
    | some next => basicLines (skipSpacesAndLineEnds next)
    | none => do
      let (c, taken) ← escape? rest
      let (content, after) ← basicLines (rest.drop taken)
      some (c :: content, after)
  | '\r' :: '\n' :: rest => do
    let (content, after) ← basicLines rest
    some ('\n' :: content, after)
  | c :: rest =>
    if isPlain c ∨ c = '\n' then do
      let (content, after) ← basicLines rest
      some (c :: content, after)
    else none
termination_by text.length
decreasing_by
  · have := length_of_lineEnd? _h
    have := Text.length_dropWhile_le isSpace rest
    have := length_skipSpacesAndLineEnds_le next
    simp only [List.length_cons]
    unfold skipSpaces at *
    omega
  all_goals simp only [List.length_cons, List.length_drop]; omega

/-- The rest of a string that began with three single quotes. -/
def literalLines : List Char → Option (List Char × List Char)
  | [] => none
  | '\'' :: '\'' :: '\'' :: rest => some (closing '\'' rest)
  | '\r' :: '\n' :: rest => do
    let (content, after) ← literalLines rest
    some ('\n' :: content, after)
  | c :: rest =>
    if isPlain c ∨ c = '\n' then do
      let (content, after) ← literalLines rest
      some (c :: content, after)
    else none

/-- A line end right after three quotes is no part of the string. -/
def afterOpening (text : List Char) : List Char := (lineEnd? text).getD text

/-- A string of any kind at the front of the text. -/
def readString (text : List Char) : Option (List Char × List Char) :=
  match text with
  | '"' :: '"' :: '"' :: rest => basicLines (afterOpening rest)
  | '"' :: rest => basicString rest
  | '\'' :: '\'' :: '\'' :: rest => literalLines (afterOpening rest)
  | '\'' :: rest => literalString rest
  | _ => none

end CoverageQuery.Toml
