import CoverageQuery.Exchange
import CoverageQuery.Session.Call

/-!
# Sessions

A session is a supply of variables and the objects named so far. Its steps make, change, write and
send objects; a step that fails leaves every object as it was.
-/

namespace CoverageQuery

structure Session where
  supply : VariableSupply
  objects : Objects

/-- A question that changes no object. -/
inductive Inquiry where
  | render (query : String) (format : Option String)
  | iterationClause (query : String)
  | execute (query : String) (params : ServiceParams) (format : Option String) (reply : Response)
  | send (params : ServiceParams) (request : ServiceRequest) (subsets : List AxisRecipe)
      (reply : Response)
  | sameObjects (first second : String)
  | sameValues (first second : Recipe)

inductive Step where
  | nextVariable
  | create (target : String) (c : Creation .written)
  | edit (target : String) (e : Edit .written)
  | inquire (i : Inquiry)

inductive Answer where
  | done
  | variable (name : String)
  | text (t : String)
  | clause (t : String) (coverages : Nat)
  /-- The messages that a service received, and what came of it. -/
  | exchange (sent : List Message) (result : Except QueryError Response)
  | same (b : Bool)

namespace ServiceRequest

/-- The request with other axis subsets, if it has any. -/
def withSubsets (r : ServiceRequest) (axes : List AxisSubset) : ServiceRequest :=
  match r with
  | coverage id _ format => coverage id axes format
  | r => r

end ServiceRequest

namespace Inquiry

/-- Carries out an errand against a service that always gives the same reply. -/
def exchange (params : ServiceParams) (e : Errand) (reply : Response) : Answer :=
  let (result, channel) := (Channel.constant reply).perform params e
  .exchange channel.sent.reverse result

def answer (objects : Objects) : Inquiry → Build Answer
  | render query format => do
    let q ← Build.find Object.query? objects query
    let text ← Build.ofQuery (q.renderAs format)
    pure (.text text)
  | iterationClause query => do
    let q ← Build.find Object.query? objects query
    pure (.clause q.iterationClause q.coverages.length)
  | execute query params format reply => do
    let q ← Build.find Object.query? objects query
    pure (exchange params (.execute q format) reply)
  | send params request subsets reply => do
    let axes ← subsets.mapM (AxisRecipe.build objects)
    pure (exchange params (.send (request.withSubsets axes)) reply)
  | sameObjects first second => do
    let a ← Build.find some objects first
    let b ← Build.find some objects second
    pure (.same (a.sameValue b))
  | sameValues first second => do
    let a ← first.build objects
    let b ← second.build objects
    pure (.same (a.sameValue b))

end Inquiry

namespace Session

/-- A session in which nothing is named yet. -/
def start (first : UInt64) : Session := ⟨⟨first⟩, []⟩

def get? (s : Session) (name : String) : Option Object := s.objects.lookup name

def put (s : Session) (name : String) (o : Object) : Session :=
  { s with objects := (name, o) :: s.objects }

/-- Makes an object from built arguments. -/
def create (s : Session) (target : String) (c : Creation .built) :
    Except SessionError Unit × Session :=
  match c.perform s.supply with
  | (.ok o, supply) => (.ok (), { s with supply := supply }.put target o)
  | (.error e, supply) => (.error (.query e), { s with supply := supply })

/-- Changes an object with built arguments. -/
def edit (s : Session) (target : String) (e : Edit .built) : Except SessionError Unit × Session :=
  match s.get? target with
  | none => (.error (.noObject target), s)
  | some o =>
    match e.perform o with
    | .ok o => (.ok (), s.put target o)
    | .error error => (.error error, s)

/-- Builds something from the named objects, then goes on with it. -/
def withBuilt {α β : Type} (s : Session) (build : Objects → Build α)
    (next : α → Session → Except SessionError β × Session) : Except SessionError β × Session :=
  match (build s.objects).run.run s.supply with
  | (.ok a, supply) => next a { s with supply := supply }
  | (.error e, supply) => (.error e, { s with supply := supply })

def step (s : Session) : Step → Except SessionError Answer × Session
  | .nextVariable =>
    let (var, supply) := s.supply.take
    (.ok (.variable var), { s with supply := supply })
  | .create target c =>
    s.withBuilt c.resolve fun c s =>
      let (result, s) := s.create target c
      (result.map fun _ => .done, s)
  | .edit target e =>
    s.withBuilt e.resolve fun e s =>
      let (result, s) := s.edit target e
      (result.map fun _ => .done, s)
  | .inquire i => s.withBuilt i.answer fun a s => (.ok a, s)

/-- The answers to some steps and the session after them. -/
def run (s : Session) : List Step → List (Except SessionError Answer) × Session
  | [] => ([], s)
  | step :: steps =>
    let (answer, s) := s.step step
    let (answers, s) := s.run steps
    (answer :: answers, s)

end Session

end CoverageQuery
