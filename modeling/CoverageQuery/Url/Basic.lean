import CoverageQuery.Text.Percent
import CoverageQuery.Url.Address

/-!
# Web addresses

The parts of an address and the text that they make. All parts are encoded already, and the schemes
of the web are set apart: their addresses have a host and a path.
-/

namespace CoverageQuery

inductive Host where
  | name (chars : List Char)
  | ipv4 (address : Nat)
  | ipv6 (pieces : List Nat)
deriving DecidableEq, Repr

/-- Segments each of which a slash precedes, or a text that no slash begins. -/
inductive UrlPath where
  | segments (segments : List (List Char))
  | plain (text : List Char)
deriving DecidableEq, Repr

structure Url where
  scheme : List Char
  user : List Char
  password : Option (List Char)
  host : Option Host
  port : Option Nat
  path : UrlPath
  query : Option (List Char)
  fragment : Option (List Char)
deriving DecidableEq, Repr

def Host.chars : Host → List Char
  | name chars => chars
  | ipv4 address => Url.Ipv4.chars address
  | ipv6 pieces => Url.Ipv6.chars pieces

namespace Url

/-- The ports that go without saying. -/
def defaultPort? (scheme : List Char) : Option Nat :=
  (["http", "ws"].map (·, 80) ++ ["https", "wss"].map (·, 443) ++ [("ftp", 21)]).lookup
    (String.ofList scheme)

inductive SchemeKind where
  | web
  | file
  | other
deriving DecidableEq, Repr

def kindOf (scheme : List Char) : SchemeKind :=
  if (defaultPort? scheme).isSome then .web
  else if scheme = "file".toList then .file
  else .other

/-- An empty host is as good as none. -/
def HasHost (u : Url) : Prop := u.host ≠ none ∧ u.host ≠ some (.name [])

instance (u : Url) : Decidable u.HasHost :=
  inferInstanceAs (Decidable (u.host ≠ none ∧ u.host ≠ some (.name [])))

def credentialChars (u : Url) : List Char :=
  if u.user = [] ∧ u.password = none then []
  else u.user ++ (u.password.elim [] (':' :: ·)) ++ ['@']

def authorityChars (u : Url) : List Char :=
  match u.host with
  | none => []
  | some host =>
    '/' :: '/' :: u.credentialChars ++ host.chars ++ u.port.elim [] (':' :: digitChars ·)

/-- The path. Without a host it does not begin with two slashes. -/
def pathChars (u : Url) : List Char :=
  match u.path with
  | .plain text => text
  | .segments segments =>
    let path := segments.flatMap ('/' :: ·)
    match u.host, segments with
    | none, [] :: _ :: _ => '/' :: '.' :: path
    | _, _ => path

def chars (u : Url) : List Char :=
  u.scheme ++ ':' :: u.authorityChars ++ u.pathChars ++ u.query.elim [] ('?' :: ·) ++
    u.fragment.elim [] ('#' :: ·)

def text (u : Url) : String := String.ofList u.chars

/-- The address without the user and the password, or as it is if the bytes of these are no text. An
undecodable password beside a user goes with it. -/
def withoutCredentials (u : Url) : Url :=
  let decodes (text : List Char) := (Text.Percent.decodeText? text).isSome
  if decodes u.user ∧ (u.user ≠ [] ∨ u.password.any decodes) then
    { u with user := [], password := none }
  else u

end Url

end CoverageQuery
