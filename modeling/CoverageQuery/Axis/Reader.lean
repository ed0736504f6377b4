import CoverageQuery.Axis.Basic
import CoverageQuery.Text.Word

/-!
# Reading axis subsets and date labels

The readers take a value off the front of a text and return what follows it, or say where they
stopped and what they were looking for. An optional part that is not complete is left unread. A
bound is tried as a quoted date first; where it is neither a date nor a number, the number's
failure is the one reported.
-/

namespace CoverageQuery

namespace Axis

/-- A reader of `α` at the front of a text. -/
abbrev Reader (α : Type) := List Char → Except ReadError (α × List Char)

/-- White space between the parts of an axis subset: space, tab, carriage return and line feed. -/
def isGap (c : Char) : Bool := c == ' ' || c == '\t' || c == '\r' || c == '\n'

def skipGap (text : List Char) : List Char := text.dropWhile isGap

def expect (c : Char) (text : List Char) : Except ReadError (List Char) :=
  match text with
  | d :: rest => if d = c then .ok rest else .error (.stuck text .punctuation)
  | [] => .error (.stuck text .punctuation)

def readName : Reader String := fun text =>
  match text.takeWhile Text.isWordChar with
  | [] => .error (.stuck text .name)
  | name => .ok (String.ofList name, text.dropWhile Text.isWordChar)

def readNumber : Reader Number := fun text =>
  match Numeral.read? text with
  | none => .error (.stuck (Numeral.takeMinus text).2 .digit)
  | some (numeral, rest) =>
    match numeral.number? with
    | some n => .ok (n, rest)
    | none => .error (.stuck rest .digit)

/-- Exactly `count` digits and their value. -/
def readDigits (count : Nat) : Reader Nat := fun text =>
  if (text.take count).length = count ∧ (text.take count).all Char.isDigit then
    .ok (digitsValue (text.take count), text.drop count)
  else .error (.stuck text .dateDigits)

/-- A hyphen and two digits, if both are there. -/
def readPart? (text : List Char) : Option Nat × List Char :=
  match text with
  | '-' :: rest =>
    match readDigits 2 rest with
    | .ok (n, rest) => (some n, rest)
    | .error _ => (none, text)
  | _ => (none, text)

/-- Year, month and day as written, not yet checked. -/
def readDateParts : Reader (Nat × Option Nat × Option Nat) := fun text => do
  let (year, text) ← readDigits 4 text
  match readPart? text with
  | (none, text) => .ok ((year, none, none), text)
  | (some month, text) =>
    let (day, text) := readPart? text
    .ok ((year, some month, day), text)

/-- A date label between double quotes, none where the text is anything else. -/
def readQuotedDate? (text : List Char) : Option (DateLabel × List Char) :=
  match text with
  | '"' :: rest =>
    match readDateParts rest with
    | .ok ((year, month, day), '"' :: rest) =>
      match DateLabel.ofParts year month day with
      | .ok date => some (date, rest)
      | .error _ => none
    | _ => none
  | _ => none

def readBound : Reader Bound := fun text =>
  match readQuotedDate? text with
  | some (date, rest) => .ok (.date date, rest)
  | none => do
    let (n, rest) ← readNumber text
    .ok (.number n, rest)

/-- A bound with the white space around it. -/
def readSpacedBound : Reader Bound := fun text => do
  let (b, rest) ← readBound (skipGap text)
  .ok (b, skipGap rest)

/-- A colon and a second bound, if both are there. -/
def readHigh? (text : List Char) : Option Bound × List Char :=
  match text with
  | ':' :: rest =>
    match readSpacedBound rest with
    | .ok (b, rest) => (some b, rest)
    | .error _ => (none, text)
  | _ => (none, text)

def readRange : Reader AxisRange := fun text => do
  let (low, text) ← readSpacedBound text
  match readHigh? text with
  | (some high, rest) => .ok (.interval low high, rest)
  | (none, rest) => .ok (.point low, rest)

/-- The name and range of an axis subset, not yet checked against each other. -/
def readSubset : Reader (String × AxisRange) := fun text => do
  let (name, text) ← readName text
  let text ← expect '(' (skipGap text)
  let (range, text) ← readRange text
  let text ← expect ')' text
  .ok ((name, range), skipGap text)

/-- A reader that must use up the text. -/
def complete {α : Type} (reader : Reader α) (text : List Char) : Except QueryError α :=
  match reader text with
  | .ok (value, []) => .ok value
  | .ok (_, rest) => .error (.unreadable (.leftover rest))
  | .error error => .error (.unreadable error)

end Axis

/-- An axis subset from its written form, white space at both ends aside. -/
def AxisSubset.parse (text : String) : Except QueryError AxisSubset := do
  let (name, range) ← Axis.complete Axis.readSubset (Text.trim text.toList)
  AxisSubset.ofRange name range

/-- The text between a pair of double quotes that encloses it, or the text itself. -/
def Text.unquote (text : List Char) : List Char :=
  match text with
  | '"' :: rest => if rest.getLast? = some '"' then rest.dropLast else text
  | _ => text

/-- A date label from its parts, with or without quotes. -/
def DateLabel.parse (text : String) : Except QueryError DateLabel := do
  let (year, month, day) ← Axis.complete Axis.readDateParts (Text.unquote (Text.trim text.toList))
  DateLabel.ofParts year month day

end CoverageQuery
