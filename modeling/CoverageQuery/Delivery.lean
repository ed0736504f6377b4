import CoverageQuery.Exchange
import CoverageQuery.Url.Form
import CoverageQuery.Url.Reader

/-!
# Delivery

What keeps a message from being sent over HTTP before a connection is opened. The parameters of a
request are checked before the endpoint, which must be an absolute HTTP address with a host.
-/

namespace CoverageQuery

inductive EndpointFault where
  | unreadable (fault : UrlFault)
  | scheme (url : Url)
  | address (url : Url)
deriving DecidableEq, Repr

def EndpointFault.message : EndpointFault → String
  | unreadable fault => "builder error: " ++ fault.message
  | scheme url => "builder error for url (" ++ url.text ++ "): URL scheme is not allowed"
  | address url => "builder error for url (" ++ url.text ++ "): Parsed Url is not a valid Uri"

namespace Endpoint

def isHostChar (c : Char) : Bool :=
  Text.Percent.isUnreserved c || "!$&'()*+,;=".toList.contains c

/-- Whether a host can be named in a request. -/
def IsRequestable : Host → Prop
  | .name chars => chars.all isHostChar
  | .ipv4 _ | .ipv6 _ => True

instance : (host : Host) → Decidable (IsRequestable host)
  | .name chars => inferInstanceAs (Decidable (chars.all isHostChar = true))
  | .ipv4 _ | .ipv6 _ => isTrue trivial

/-- The length from which on an address is too long for a request. -/
def tooLong : Nat := 65535

/-- The address that a request with these parameters goes to. Credentials are sent apart. -/
def resolve (endpoint : String) (parameters : List (String × String)) :
    Except EndpointFault Url := do
  let url ← (Url.read endpoint).mapError .unreadable
  if ¬ url.HasHost then throw (.scheme url)
  let target := url.withoutCredentials.addParameters parameters
  if ¬ (target.scheme = "http".toList ∨ target.scheme = "https".toList) then throw (.scheme target)
  if tooLong ≤ target.chars.length ∨ ∃ host ∈ target.host, ¬ IsRequestable host then
    throw (.address target)
  pure target

end Endpoint

/-- Why a message is not sent. -/
inductive Refusal where
  | malformed (e : QueryError)
  | endpoint (fault : EndpointFault)
deriving DecidableEq, Repr

namespace Refusal

def message : Refusal → String
  | malformed e => e.message
  | endpoint fault => fault.message

def failure (r : Refusal) : Failure := .connection r.message

end Refusal

namespace Message

def params : Message → ServiceParams
  | query params _ | request params _ => params

/-- The parameters in the address of a message. The text of a query is not among them. -/
def parameters : Message → Except QueryError (List (String × String))
  | query params _ => ServiceRequest.process.parameters params
  | request params r => r.parameters params

/-- The address that a message is sent to. -/
def target (m : Message) : Except Refusal Url := do
  let parameters ← m.parameters.mapError .malformed
  (Endpoint.resolve m.params.endpoint parameters).mapError .endpoint

/-- Why the message is not sent, none if a connection is opened for it. -/
def refusal? (m : Message) : Option Refusal :=
  match m.target with
  | .ok _ => none
  | .error r => some r

end Message

/-- A channel without a network: what could be sent does not arrive. -/
def Channel.offline : Channel :=
  ⟨[], fun _ m =>
    .error (match m.refusal? with
      | some r => r.failure
      | none => .connection "the network cannot be reached")⟩

end CoverageQuery
