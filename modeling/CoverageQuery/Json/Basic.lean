import CoverageQuery.Decimal.Basic

/-!
# JSON values

The values that an envelope is made of, and two written forms of them: on one line, and with every
member on a line of its own, indented by two spaces a level.
-/

namespace CoverageQuery

inductive JsonValue where
  | null
  | bool (b : Bool)
  | int (n : Int)
  | string (s : String)
  | object (members : List (String × JsonValue))

namespace JsonValue

/-- The short escape of a character, or its code in four digits for another control character. -/
def escapeChar (c : Char) : List Char :=
  match c with
  | '"' => ['\\', '"']
  | '\\' => ['\\', '\\']
  | '\n' => ['\\', 'n']
  | '\r' => ['\\', 'r']
  | '\t' => ['\\', 't']
  | '\x08' => ['\\', 'b']
  | '\x0c' => ['\\', 'f']
  | c =>
    if c.toNat < 32 then
      ['\\', 'u', '0', '0', Nat.digitChar (c.toNat / 16), Nat.digitChar (c.toNat % 16)]
    else [c]

def stringChars (s : String) : List Char := '"' :: s.toList.flatMap escapeChar ++ ['"']

def boolChars (b : Bool) : List Char := (if b then "true" else "false").toList

def margin (level : Nat) : List Char := '\n' :: List.replicate (2 * level) ' '

/-- The value with its members on lines of their own, at a level of indentation. -/
def pretty (level : Nat) : JsonValue → List Char
  | null => "null".toList
  | bool b => boolChars b
  | int n => intChars n
  | string s => stringChars s
  | object [] => ['\x7b', '\x7d']
  | object ((name, value) :: members) =>
    '\x7b' :: margin (level + 1) ++ stringChars name ++ ':' :: ' ' :: pretty (level + 1) value ++
      prettyMembers (level + 1) members ++ margin level ++ ['\x7d']
where
  /-- Further members, each after a comma. -/
  prettyMembers (level : Nat) : List (String × JsonValue) → List Char
    | [] => []
    | (name, value) :: members =>
      ',' :: margin level ++ stringChars name ++ ':' :: ' ' :: pretty level value ++
        prettyMembers level members

end JsonValue

end CoverageQuery
