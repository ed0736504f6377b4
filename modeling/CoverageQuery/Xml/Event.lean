import CoverageQuery.Xml.Entity

/-!
# Events of a document

What a reader of XML reports one after the other: tags with their well formed attributes, runs of
text and of character data, and markup that carries no content.
-/

namespace CoverageQuery.Xml

/-- White space between the parts of a tag and around runs of text. -/
def isSpace (c : Char) : Bool := c == ' ' || c == '\t' || c == '\r' || c == '\n'

/-- What follows the first colon of a name, or the name itself. -/
def localName (name : List Char) : List Char :=
  match Text.splitAt? ':' name with
  | some (_, after) => after
  | none => name

/-- An attribute with its value as written. -/
structure Attribute where
  name : List Char
  raw : List Char
deriving DecidableEq, Repr

structure Tag where
  name : List Char
  attributes : List Attribute
deriving DecidableEq, Repr

inductive Event where
  | opening (tag : Tag)
  | empty (tag : Tag)
  | closing (name : List Char)
  | text (raw : List Char)
  | data (content : List Char)
  | other
deriving DecidableEq, Repr

end CoverageQuery.Xml
