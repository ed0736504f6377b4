import CoverageQuery.Toml.Number
import CoverageQuery.Toml.String

/-!
# Reading TOML documents

A document is read line by line: headers choose the table that the keys after them go into. Arrays
and tables in braces nest to a limited depth, and so do dotted keys.
-/

namespace CoverageQuery.Toml

/-- One more than the depth to which values nest and keys are dotted. -/
def depthLimit : Nat := 80

def isBareKeyChar (c : Char) : Bool := c.isAlphanum || c == '-' || c == '_'

/-- A bare or quoted key with the spaces around it. -/
def readKey (text : List Char) : Option (String × List Char) :=
  match skipSpaces text with
  | '"' :: rest => do
    let (key, after) ← basicString rest
    some (String.ofList key, skipSpaces after)
  | '\'' :: rest => do
    let (key, after) ← literalString rest
    some (String.ofList key, skipSpaces after)
  | start =>
    match start.takeWhile isBareKeyChar with
    | [] => none
    | key => some (String.ofList key, skipSpaces (start.dropWhile isBareKeyChar))

/-- Keys with points between them, the last one apart. No key is read without text being used up. -/
def readKeys (text : List Char) : Option (List String × String × List Char) := do
  let (key, rest) ← readKey text
  match rest with
  | '.' :: next =>
    if next.length < text.length then do
      let (path, last, after) ← readKeys next
      some (key :: path, last, after)
    else none
  | _ => some ([], key, rest)
termination_by text.length

/-- A dotted key: the path to a table and the key in it. -/
def readKeyPath (text : List Char) : Option (List String × String × List Char) := do
  let (path, key, rest) ← readKeys text
  if path.length + 1 < depthLimit then some (path, key, rest) else none

/-- A dotted key, an equals sign and a value with the spaces around it. -/
def readPair (value : List Char → Option (Value × List Char)) (text : List Char) :
    Option ((List String × String × Value) × List Char) := do
  let (path, key, rest) ← readKeyPath text
  let rest ← mark '=' rest
  let (v, rest) ← value (skipSpaces rest)
  some ((path, key, v), skipSpaces rest)

/-- The items of an array after its bracket or after a comma. Every item uses up some text. -/
def readItems (value : List Char → Option (Value × List Char)) (text : List Char) :
    Option (List Value × List Char) :=
  match skipLines text with
  | ']' :: rest => some ([], rest)
  | start => do
    let (v, rest) ← value start
    match skipLines rest with
    | ']' :: after => some ([v], after)
    | ',' :: next =>
      if next.length < text.length then do
        let (vs, after) ← readItems value next
        some (v :: vs, after)
      else none
    | _ => none
termination_by text.length

/-- The pairs of a table in braces after its brace or after a comma, at least one. Every pair uses
up some text. -/
def readPairs (value : List Char → Option (Value × List Char)) (text : List Char) :
    Option (List (List String × String × Value) × List Char) := do
  let (pair, rest) ← readPair value text
  match rest with
  | '\x7d' :: after => some ([pair], after)
  | ',' :: next =>
    if next.length < text.length then do
      let (pairs, after) ← readPairs value next
      some (pair :: pairs, after)
    else none
  | _ => none
termination_by text.length

/-- The table that some pairs make. -/
def tableOf (pairs : List (List String × String × Value)) : Option Entries :=
  pairs.foldlM (fun entries (path, key, value) => Entries.define key value path entries) []

def readScalar (text : List Char) : Option (Value × List Char) :=
  match text with
  | 't' :: 'r' :: 'u' :: 'e' :: rest => some (.boolean true, rest)
  | 'f' :: 'a' :: 'l' :: 's' :: 'e' :: rest => some (.boolean false, rest)
  | _ =>
    match readString text with
    | some (s, rest) => some (.string (String.ofList s), rest)
    | none =>
      match moment? text with
      | some rest => some (.moment, rest)
      | none => readNumber text

/-- A value in which arrays and tables nest no deeper than this. -/
def readValue : Nat → List Char → Option (Value × List Char)
  | 0, text => readScalar text
  | depth + 1, text =>
    match text with
    | '[' :: rest => do
      let (items, after) ← readItems (readValue depth) rest
      some (.array items, after)
    | '\x7b' :: rest =>
      match skipSpaces rest with
      | '\x7d' :: after => some (.table .braces [], after)
      | _ => do
        let (pairs, after) ← readPairs (readValue depth) rest
        let entries ← tableOf pairs
        some (.table .braces entries, after)
    | _ => readScalar text

/-- A line of a document that says something. -/
inductive Line where
  | table (path : List String) (key : String)
  | row (path : List String) (key : String)
  | pair (path : List String) (key : String) (value : Value)

/-- The line at the front of the text, and the text from the next line on. -/
def readLine (text : List Char) : Option (Line × List Char) :=
  match text with
  | '[' :: '[' :: rest => do
    let (path, key, rest) ← readKeyPath rest
    let rest ← mark ']' rest >>= mark ']' >>= nextLine?
    some (.row path key, rest)
  | '[' :: rest => do
    let (path, key, rest) ← readKeyPath rest
    let rest ← mark ']' rest >>= nextLine?
    some (.table path key, rest)
  | _ => do
    let ((path, key, value), rest) ← readPair (readValue (depthLimit - 1)) text
    let rest ← nextLine? rest
    some (.pair path key value, rest)

/-- The lines of a document. Every line uses up some text. -/
def readLines (text : List Char) : Option (List Line) :=
  match skipLines text with
  | [] => some []
  | start => do
    let (line, rest) ← readLine start
    if rest.length < text.length then do
      let lines ← readLines rest
      some (line :: lines)
    else none
termination_by text.length

/-- A document as far as it has been read: its tables and the path to the one that keys go into. -/
structure Document where
  root : Entries
  current : List String

def Document.add (d : Document) : Line → Option Document
  | .table path key => do
    let root ← Entries.openTable path key d.root
    some ⟨root, path ++ [key]⟩
  | .row path key => do
    let root ← Entries.openRow path key d.root
    some ⟨root, path ++ [key]⟩
  | .pair path key value => do
    let root ← Entries.changeAt (Entries.define key value path) d.current d.root
    some { d with root := root }

/-- The table of a whole document, a byte order mark at its start aside. -/
def parse? (text : String) : Option Entries := do
  let lines ← readLines (match text.toList with | '\ufeff' :: rest => rest | all => all)
  let d ← lines.foldlM Document.add ⟨[], []⟩
  some d.root

end CoverageQuery.Toml
