import CoverageQuery.Text.Hex

/-!
# Percent encoding

A byte as a percent sign with two upper case hexadecimal digits. `encode` writes so all bytes in
UTF-8 of the characters that are not letters, digits or one of `-_.~`.
-/

namespace CoverageQuery.Text.Percent

def isUnreserved (c : Char) : Bool :=
  c.isAlphanum || c == '-' || c == '_' || c == '.' || c == '~'

def hexDigit (n : Nat) : Char := (Nat.digitChar n).toUpper

def encodeByte (b : UInt8) : List Char :=
  ['%', hexDigit (b.toNat / 16), hexDigit (b.toNat % 16)]

/-- A character, or its bytes unless it is kept. -/
def encodeChar (keep : Char → Bool) (c : Char) : List Char :=
  if keep c then [c] else (String.utf8EncodeChar c).flatMap encodeByte

/-- The text with everything encoded that is not kept. -/
def encodeUnless (keep : Char → Bool) (text : List Char) : List Char :=
  text.flatMap (encodeChar keep)

def encode (text : List Char) : List Char := encodeUnless isUnreserved text

/-- The bytes of a text. A percent sign without two digits stands for itself. -/
def decode : List Char → List UInt8
  | '%' :: high :: low :: rest =>
    match hexDigit? high, hexDigit? low with
    | some h, some l => UInt8.ofNat (16 * h + l) :: decode rest
    | _, _ => '%'.toUInt8 :: decode (high :: low :: rest)
  | c :: rest => String.utf8EncodeChar c ++ decode rest
  | [] => []

/-- The text that the bytes are in UTF-8, if they are. -/
def decodeText? (text : List Char) : Option (List Char) :=
  (String.fromUTF8? ⟨(decode text).toArray⟩).map String.toList

end CoverageQuery.Text.Percent
