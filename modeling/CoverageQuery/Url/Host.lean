import CoverageQuery.Domain.Basic
import CoverageQuery.Url.Basic

/-!
# Hosts

What may stand in the place of a host: for the schemes of the web a domain name in any script,
perhaps percent encoded, or a numeric address; for other schemes any text without delimiters.
-/

namespace CoverageQuery

/-- Why a text is not an address. -/
inductive UrlFault where
  | relative
  | emptyHost
  | domain
  | character
  | port
  | ipv4
  | ipv6
deriving DecidableEq, Repr

def UrlFault.message : UrlFault → String
  | relative => "relative URL without a base"
  | emptyHost => "empty host"
  | domain => "invalid international domain name"
  | character => "invalid domain character"
  | port => "invalid port number"
  | ipv4 => "invalid IPv4 address"
  | ipv6 => "invalid IPv6 address"

namespace Host

/-- An address between brackets, given the text after the first one. -/
def ofBracketed (text : List Char) : Except UrlFault Host :=
  match text.reverse with
  | ']' :: inner =>
    match Url.Ipv6.read? inner.reverse with
    | some pieces => .ok (.ipv6 pieces)
    | none => .error .ipv6
  | _ => .error .ipv6

def ofDomain (text : List Char) : Except UrlFault Host :=
  match (Text.Percent.decodeText? text).bind Domain.toAscii? with
  | none => .error .domain
  | some [] => .error .emptyHost
  | some domain =>
    if Url.Ipv4.IsMeant domain then
      match Url.Ipv4.read? domain with
      | some address => .ok (.ipv4 address)
      | none => .error .ipv4
    else .ok (.name domain)

def isDelimiter (c : Char) : Bool := "\x00\t\n\r #/:<>?@[\\]^|".toList.contains c

/-- The characters of plain text. -/
def isPrintable (c : Char) : Bool := ' ' ≤ c && c ≤ '~'

/-- A host that is not taken for a name or a number. -/
def ofText (text : List Char) : Except UrlFault Host :=
  if text.any isDelimiter then .error .character
  else .ok (.name (Text.Percent.encodeUnless isPrintable text))

def read (kind : Url.SchemeKind) (text : List Char) : Except UrlFault Host :=
  match text, kind with
  | '[' :: rest, _ => ofBracketed rest
  | text, .other => ofText text
  | text, _ => ofDomain text

end Host

end CoverageQuery
