import CoverageQuery.Failure
import CoverageQuery.Query.Basic
import CoverageQuery.Request

/-!
# Exchanges with a service

What is sent to a service and what comes back. A query or a request that is malformed is refused
before anything is sent; one that is sent is sent once, and the reply is passed on as it is.
-/

namespace CoverageQuery

inductive Message where
  | query (params : ServiceParams) (text : String)
  | request (params : ServiceParams) (request : ServiceRequest)
deriving DecidableEq

/-- What a service answers to a message: bytes, or why there are none. -/
abbrev Reply := Except Failure (List UInt8)

/-- The bytes of a successful response, or a classified failure. -/
inductive Response where
  | success (bytes : List UInt8)
  | failure (f : Failure)
deriving DecidableEq

namespace Response

/-- A failed exchange has a response too. -/
def ofReply : Reply → Response
  | .ok bytes => success bytes
  | .error f => failure f

def reply : Response → Reply
  | success bytes => .ok bytes
  | failure f => .error f

end Response

/-- Something to be carried out against a service. -/
inductive Errand where
  | execute (q : Query) (format : Option String)
  | send (r : ServiceRequest)
deriving DecidableEq

namespace Errand

/-- What the errand sends, or why it sends nothing. -/
def message (params : ServiceParams) : Errand → Except QueryError Message
  | execute q format => do
    let text ← q.renderAs format
    pure (.query params text)
  | send r => do
    r.validate
    pure (.request params r)

end Errand

/-- A service seen from the client: the messages that it has received, the latest first, and its
answer to the next one, which may depend on all of them. -/
structure Channel where
  sent : List Message
  answer : List Message → Message → Reply

namespace Channel

/-- Passes a message on and returns the answer to it. -/
def post (c : Channel) (m : Message) : Reply × Channel :=
  (c.answer c.sent m, { c with sent := m :: c.sent })

/-- Carries out an errand; one that is malformed leaves the channel as it is. -/
def perform (c : Channel) (params : ServiceParams) (e : Errand) :
    Except QueryError Response × Channel :=
  match e.message params with
  | .ok m => let (reply, c) := c.post m; (.ok (.ofReply reply), c)
  | .error error => (.error error, c)

/-- A channel that gives the same answer to everything. -/
def constant (r : Response) : Channel := ⟨[], fun _ _ => r.reply⟩

end Channel

end CoverageQuery
