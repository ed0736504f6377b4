import CoverageQuery.Url.Basic

/-!
# Paths

A path is read segment by segment. A single dot is left out and two dots take the segment before
them away, in their encoded forms too; drive letters stay.
-/

namespace CoverageQuery.Url

def isControl (c : Char) : Bool := c.toNat < 0x20 || 0x7F ≤ c.toNat

/-- Printable characters that a fragment does not hold. -/
def outsideFragment : List Char := " \"<>`".toList

/-- Those that a path does not hold either. -/
def outsidePath : List Char := "#?\x7b\x7d".toList

def staysInFragment (c : Char) : Bool := !isControl c && !outsideFragment.contains c

def staysInPath (c : Char) : Bool := staysInFragment c && !outsidePath.contains c

namespace Path

/-- A backslash is a slash except in paths of other schemes than those of the web. -/
def isSlash (kind : SchemeKind) (c : Char) : Bool := c == '/' || (c == '\\' && kind != .other)

/-- Dots with their encoded forms written out. -/
def plainDots : List Char → List Char
  | '%' :: '2' :: 'e' :: rest | '%' :: '2' :: 'E' :: rest => '.' :: plainDots rest
  | c :: rest => c :: plainDots rest
  | [] => []

def isDot (segment : List Char) : Bool := plainDots segment == ['.']

def isDoubleDot (segment : List Char) : Bool := plainDots segment == ['.', '.']

def isDrive : List Char → Bool
  | [letter, mark] => letter.isAlpha && (mark == ':' || mark == '|')
  | _ => false

/-- Leaves a segment by two dots, the innermost one given first. -/
def climb : List (List Char) → List (List Char)
  | [] => []
  | segment :: above => if isDrive segment then segment :: above else above

/-- Enters a segment. The drive at the top of a file path is written with a colon. -/
def enter (kind : SchemeKind) (above : List (List Char)) (segment : List Char) :
    List (List Char) :=
  if kind = .file ∧ above = [] ∧ isDrive segment then [segment.take 1 ++ [':']]
  else segment :: above

/-- The segments after those that have been entered, the innermost one of which is given first. An
empty one ends the path where the last one is left out. -/
def follow (kind : SchemeKind) (above : List (List Char)) : List (List Char) → List (List Char)
  | [] => above.reverse
  | segment :: rest =>
    let left := if isDoubleDot segment then some (climb above)
      else if isDot segment then some above
      else none
    match left, rest with
    | some above, [] => ([] :: above).reverse
    | some above, rest => follow kind above rest
    | none, rest => follow kind (enter kind above segment) rest

/-- The text between slashes of some kind. -/
def fields (kind : SchemeKind) (text : List Char) : List (List Char) :=
  Text.fields '/' (text.map fun c => if isSlash kind c then '/' else c)

/-- The segments of a path, given the text after the first slash. -/
def segments (kind : SchemeKind) (text : List Char) : List (List Char) :=
  follow kind [] ((fields kind text).map (Text.Percent.encodeUnless staysInPath))

/-- Leaves out the empty segments at the start, if anything comes after them. -/
def dropEmpty : List (List Char) → List (List Char)
  | [] :: segment :: rest => dropEmpty (segment :: rest)
  | segments => segments

end Path

end CoverageQuery.Url
