import CoverageQuery.Text.Unprintable

/-!
# Quoted text in messages

A text between double quotes, in which every character that could not be read back or would not
show is written as an escape. An apostrophe stands for itself.
-/

namespace CoverageQuery.Text

/-- The code point in lower case hexadecimal between braces. -/
def codePointEscape (c : Char) : List Char :=
  '\\' :: 'u' :: '\x7b' :: Nat.toDigits 16 c.toNat ++ ['\x7d']

def escapeChar (c : Char) : List Char :=
  match c with
  | '\x00' => ['\\', '0']
  | '\t' => ['\\', 't']
  | '\r' => ['\\', 'r']
  | '\n' => ['\\', 'n']
  | '\\' => ['\\', '\\']
  | '"' => ['\\', '"']
  | c => if isUnprintable c then codePointEscape c else [c]

def quoted (text : List Char) : List Char :=
  '"' :: text.flatMap escapeChar ++ ['"']

end CoverageQuery.Text
