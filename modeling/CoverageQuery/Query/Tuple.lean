import CoverageQuery.Expr.Operand

/-!
# Grids and polygons

Templates filled with pairs of finite numbers. A tuple is checked for its length before its
elements, and the first element before the second.
-/

namespace CoverageQuery

structure Pair where
  x : Number
  y : Number
deriving DecidableEq

namespace Pair

/-- The finite number that an element of the tuple with this index holds. -/
def element (index : Nat) (v : Value) : Except QueryError Number :=
  match v.number? with
  | none => .error (.element index (.kind v.kind))
  | some n => if n.IsFinite then .ok n else .error (.element index .nonFinite)

def ofTuple (index : Nat) : List Value → Except QueryError Pair
  | [x, y] => do
    let x ← element index x
    let y ← element index y
    pure ⟨x, y⟩
  | tuple => .error (.element index (.length tuple.length))

/-- The pairs of a list of tuples whose first has this index. -/
def ofTuples (index : Nat) : List (List Value) → Except QueryError (List Pair)
  | [] => .ok []
  | tuple :: tuples => do
    let pair ← ofTuple index tuple
    let pairs ← ofTuples (index + 1) tuples
    pure (pair :: pairs)

def sameValue (a b : Pair) : Bool := a.x.sameValue b.x && a.y.sameValue b.y

/-- The two numbers with a separator between them. -/
def chars (separator : Char) (p : Pair) : List Char := p.x.chars ++ separator :: p.y.chars

end Pair

/-- A grid over two ranges, whose cells compare their coordinates. -/
structure Grid where
  x : Pair
  y : Pair
  op : ComparisonOp
deriving DecidableEq

namespace Grid

def ofTuples (tuples : List (List Value)) (op : ComparisonOp) : Except QueryError Grid :=
  match tuples with
  | [x, y] => do
    let x ← Pair.ofTuple 0 x
    let y ← Pair.ofTuple 1 y
    pure ⟨x, y, op⟩
  | _ => .error (.arity 2 tuples.length)

def sameValue (a b : Grid) : Bool := a.x.sameValue b.x && a.y.sameValue b.y && a.op == b.op

def chars (g : Grid) : List Char :=
  "coverage myCoverage\nover $p x((".toList ++ g.x.chars ':' ++ ")), $q y((".toList ++
    g.y.chars ':' ++ ")) values $p ".toList ++ g.op.symbol.toList ++ " $q".toList

end Grid

/-- A coverage's variable clipped to the polygon of some vertices. -/
structure Clip where
  var : String
  vertices : List Pair
deriving DecidableEq

namespace Clip

def ofTuples (var : String) (tuples : List (List Value)) : Except QueryError Clip := do
  let vertices ← Pair.ofTuples 0 tuples
  pure ⟨var, vertices⟩

def sameVertices : List Pair → List Pair → Bool
  | [], [] => true
  | a :: as, b :: bs => a.sameValue b && sameVertices as bs
  | _, _ => false

def sameValue (a b : Clip) : Bool := a.var == b.var && sameVertices a.vertices b.vertices

def chars (c : Clip) : List Char :=
  "clip(".toList ++ c.var.toList ++ ", POLYGON((".toList ++
    Text.joined [','] (c.vertices.map (Pair.chars ' ')) ++ ")))".toList

end Clip

end CoverageQuery
