import CoverageQuery.Text.Scan

/-!
# Between the tokens of a TOML document

Spaces and tabs, line ends and comments. A comment must not hold control characters other than the
tab; one that does is not skipped.
-/

namespace CoverageQuery.Toml

def isSpace (c : Char) : Bool := c == ' ' || c == '\t'

/-- Characters that may stand in comments and, but for the quotes, in strings. -/
def isPlain (c : Char) : Bool := c == '\t' || (' ' ≤ c && c ≤ '~') || '\x80' ≤ c

def skipSpaces (text : List Char) : List Char := text.dropWhile isSpace

/-- What follows a line end, if the text begins with one. -/
def lineEnd? : List Char → Option (List Char)
  | '\n' :: rest => some rest
  | '\r' :: '\n' :: rest => some rest
  | _ => none

theorem length_of_lineEnd? {text rest : List Char} (h : lineEnd? text = some rest) :
    rest.length < text.length := by
  unfold lineEnd? at h
  split at h
  · cases h
    exact Nat.lt_succ_self _
  · cases h
    simp only [List.length_cons]
    omega
  · cases h

/-- The text from the first character that is neither space nor part of a comment. -/
def skipComment (text : List Char) : List Char :=
  match skipSpaces text with
  | '#' :: rest => rest.dropWhile isPlain
  | rest => rest

theorem length_skipComment_le (text : List Char) : (skipComment text).length ≤ text.length := by
  have hs := Text.length_dropWhile_le isSpace text
  unfold skipComment skipSpaces
  split
  · next r hr =>
    have hp := Text.length_dropWhile_le isPlain r
    rw [hr, List.length_cons] at hs
    omega
  · exact hs

/-- The next line, if nothing but spaces and a comment is left of this one. At the end of the text
it is empty. -/
def nextLine? (text : List Char) : Option (List Char) :=
  match skipComment text with
  | [] => some []
  | rest => lineEnd? rest

theorem length_of_nextLine? {text rest : List Char} (h : nextLine? text = some rest) :
    rest = [] ∨ rest.length < text.length := by
  unfold nextLine? at h
  split at h
  · cases h; exact .inl rfl
  · exact .inr (Nat.lt_of_lt_of_le (length_of_lineEnd? h) (length_skipComment_le text))

/-- The text from the first character that is neither space, line end nor part of a comment. -/
def skipLines (text : List Char) : List Char :=
  match skipSpaces text with
  | [] => []
  | start =>
    match _h : nextLine? text with
    | some (c :: rest) => skipLines (c :: rest)
    | some [] => []
    | none => start
termination_by text.length
decreasing_by
  rcases length_of_nextLine? _h with h | h
  · cases h
  · exact h

end CoverageQuery.Toml
