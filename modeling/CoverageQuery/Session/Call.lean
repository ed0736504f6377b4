import CoverageQuery.Session.Recipe

/-!
# Calls

The operations that make and change named objects. Their arguments come in two forms: as they are
written, which is by recipe or by name, and built. A call with built arguments that fails changes
nothing.
-/

namespace CoverageQuery

/-- The types of the arguments of calls. -/
structure Arguments where
  Value : Type
  Axis : Type
  Coverage : Type
  Case : Type
  Switch : Type
  Object : Type

namespace Arguments

abbrev written : Arguments := ⟨Recipe, AxisRecipe, String, String, String, String⟩

abbrev built : Arguments :=
  ⟨CoverageQuery.Value, AxisSubset, CoverageQuery.Coverage, CoverageQuery.Case,
    CoverageQuery.Switch, CoverageQuery.Object⟩

end Arguments

/-- A way to make an object. -/
inductive Creation (T : Arguments) where
  | coverage (names : List String)
  | coverageOver (names : List String) (var : String)
  | value (v : T.Value)
  | axis (a : T.Axis)
  | case (condition result : T.Value)
  | switch (cases : List T.Case) (otherwise : T.Value)
  | query (coverages : List T.Coverage)
  | queryOver (c : T.Coverage)
  | copy (source : T.Object)

/-- A way to change an object. -/
inductive Edit (T : Arguments) where
  | setVariable (var : String)
  | setNames (names : List String)
  | setSubset (axes : List T.Axis)
  | clearSubset
  | rename (name : String)
  | setCondition (condition : T.Value)
  | setResult (result : T.Value)
  | setCases (cases : List T.Case)
  | setDefault (otherwise : T.Value)
  | returnValue (v : T.Value)
  | returnSwitch (s : T.Switch)
  | switchOn (cases : List T.Case) (otherwise : T.Value)
  | construct (tuples : List (List T.Value)) (op : ComparisonOp)
  | clip (tuples : List (List T.Value))
  | unset

namespace Creation

/-- The arguments built in their order. -/
def resolve (objects : Objects) : Creation .written → Build (Creation .built)
  | coverage names => pure (.coverage names)
  | coverageOver names var => pure (.coverageOver names var)
  | value v => do
    let v ← v.build objects
    pure (.value v)
  | axis a => do
    let a ← a.build objects
    pure (.axis a)
  | case condition result => do
    let condition ← condition.build objects
    let result ← result.build objects
    pure (.case condition result)
  | switch cases otherwise => do
    let cases ← cases.mapM (Build.find Object.case? objects)
    let otherwise ← otherwise.build objects
    pure (.switch cases otherwise)
  | query coverages => do
    let coverages ← coverages.mapM (Build.find Object.coverage? objects)
    pure (.query coverages)
  | queryOver c => do
    let c ← Build.find Object.coverage? objects c
    pure (.queryOver c)
  | copy source => do
    let o ← Build.find some objects source
    pure (.copy o)

/-- The object that is made, and the supply that is left. -/
def perform (supply : VariableSupply) :
    Creation .built → Except QueryError Object × VariableSupply
  | coverage names =>
    let (c, supply) := Coverage.allocate names supply
    (.coverage <$> c, supply)
  | coverageOver names var => (.coverage <$> Coverage.ofNames names var, supply)
  | value v => (.ok (.value v), supply)
  | axis a => (.ok (.axis a), supply)
  | case condition result => (.case <$> Case.ofValues condition result, supply)
  | switch cases otherwise => (.switch <$> Switch.ofCases cases otherwise, supply)
  | query coverages => (.query <$> Query.ofCoverages coverages, supply)
  | queryOver c => (.ok (.query (Query.ofCoverage c)), supply)
  | copy o => (.ok o, supply)

end Creation

namespace Edit

/-- The arguments built in their order. -/
def resolve (objects : Objects) : Edit .written → Build (Edit .built)
  | setVariable var => pure (.setVariable var)
  | setNames names => pure (.setNames names)
  | setSubset axes => do
    let axes ← axes.mapM (AxisRecipe.build objects)
    pure (.setSubset axes)
  | clearSubset => pure .clearSubset
  | rename name => pure (.rename name)
  | setCondition condition => do
    let condition ← condition.build objects
    pure (.setCondition condition)
  | setResult result => do
    let result ← result.build objects
    pure (.setResult result)
  | setCases cases => do
    let cases ← cases.mapM (Build.find Object.case? objects)
    pure (.setCases cases)
  | setDefault otherwise => do
    let otherwise ← otherwise.build objects
    pure (.setDefault otherwise)
  | returnValue v => do
    let v ← v.build objects
    pure (.returnValue v)
  | returnSwitch s => do
    let s ← Build.find Object.switch? objects s
    pure (.returnSwitch s)
  | switchOn cases otherwise => do
    let cases ← cases.mapM (Build.find Object.case? objects)
    let otherwise ← otherwise.build objects
    pure (.switchOn cases otherwise)
  | construct tuples op => do
    let tuples ← tuples.mapM (·.mapM (Recipe.build objects))
    pure (.construct tuples op)
  | clip tuples => do
    let tuples ← tuples.mapM (·.mapM (Recipe.build objects))
    pure (.clip tuples)
  | unset => pure .unset

/-- The changed object. -/
def perform : Edit .built → Object → Except SessionError Object
  | setVariable var, .coverage c => .ok (.coverage (c.setVariable var))
  | setNames names, .coverage c => ofQuery (.coverage <$> c.setNames names)
  | setSubset axes, .coverage c => ofQuery (.coverage <$> c.setSubset axes)
  | clearSubset, .coverage c => .ok (.coverage c.clearSubset)
  | rename name, .axis a => ofQuery (.axis <$> a.rename name)
  | setCondition v, .case c => ofQuery (.case <$> c.setCondition v)
  | setResult v, .case c => ofQuery (.case <$> c.setResult v)
  | setCases cases, .switch s => ofQuery (.switch <$> s.setCases cases)
  | setDefault v, .switch s => ofQuery (.switch <$> s.setDefault v)
  | returnValue v, .query q => ofQuery (.query <$> q.returnValue v)
  | returnSwitch s, .query q => .ok (.query (q.returnSwitch s))
  | switchOn cases v, .query q => ofQuery (.query <$> q.switchOn cases v)
  | construct tuples op, .query q => ofQuery (.query <$> q.construct tuples op)
  | clip tuples, .query q => ofQuery (.query <$> q.clip tuples)
  | unset, .query q => .ok (.query (q.withPayload .unset))
  | _, _ => .error .notApplicable
where
  ofQuery (result : Except QueryError Object) : Except SessionError Object :=
    result.mapError .query

end Edit

end CoverageQuery
