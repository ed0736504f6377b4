import CoverageQuery.Url.Basic

/-!
# Form data

Keys and values in the query of an address. A space is written as a plus, and all else that is not
a letter, a digit or one of `*-._` is encoded.
-/

namespace CoverageQuery.Url

def isPlain (c : Char) : Bool := c.isAlphanum || "*-._".toList.contains c

def formChars (text : List Char) : List Char :=
  text.flatMap fun c => if c = ' ' then ['+'] else Text.Percent.encodeChar isPlain c

def formPair (pair : String × String) : List Char :=
  formChars pair.1.toList ++ '=' :: formChars pair.2.toList

/-- Appends keys and values to the query, which an ampersand ends unless it is empty. -/
def addParameters (u : Url) (parameters : List (String × String)) : Url :=
  let start := (u.query.filter (· ≠ [])).toList
  { u with query := some (Text.joined ['&'] (start ++ parameters.map formPair)) }

end CoverageQuery.Url
