import CoverageQuery.Query.Basic
import Mathlib.Data.List.Basic

/-!
# Renamed variables

`mapVars` renames the variables of coverages and clips and leaves all else as it is. No constructor
and no setter looks at a variable, so each of them makes of renamed parts what it makes of the
parts, renamed, or refuses them for the same reason. A renaming that keeps different variables apart
does not change which objects are equal.
-/

namespace CoverageQuery

variable {f : String → String}

namespace Coverage

def mapVar (f : String → String) (c : Coverage) : Coverage := { c with var := f c.var }

theorem ofNames_map (f : String → String) (names : List String) (var : String) :
    ofNames names (f var) = mapVar f <$> ofNames names var := by
  unfold ofNames
  split <;> rfl

theorem setNames_mapVar (f : String → String) (c : Coverage) (names : List String) :
    (c.mapVar f).setNames names = mapVar f <$> c.setNames names := by
  unfold setNames
  split <;> rfl

theorem setSubset_mapVar (f : String → String) (c : Coverage) (axes : List AxisSubset) :
    (c.mapVar f).setSubset axes = mapVar f <$> c.setSubset axes := by
  unfold setSubset
  split <;> rfl

theorem sameValue_mapVar (hf : Function.Injective f) (a b : Coverage) :
    (a.mapVar f).sameValue (b.mapVar f) = a.sameValue b := by
  rw [sameValue, sameValue, mapVar, mapVar, hf.beq_eq]

end Coverage

namespace Expr

def mapVars (f : String → String) : Expr → Expr
  | coverage c => coverage (c.mapVar f)
  | arithmetic left op right => arithmetic (left.mapVars f) op (right.mapVars f)
  | comparison left op right => comparison (left.mapVars f) op (right.mapVars f)
  | number n => number n
  | aggregate op e => aggregate op (e.mapVars f)
  | unary g e => unary g (e.mapVars f)
  | binary g a b => binary g (a.mapVars f) (b.mapVars f)

/-- The induction is on the first tree; only at the coverages is a variable compared. -/
theorem sameValue_mapVars (hf : Function.Injective f) (a b : Expr) :
    (a.mapVars f).sameValue (b.mapVars f) = a.sameValue b := by
  induction a generalizing b with
  | coverage c =>
    cases b with
    | coverage d => exact c.sameValue_mapVar hf d
    | _ => rfl
  | number n => cases b <;> rfl
  | arithmetic left op right ihl ihr | comparison left op right ihl ihr =>
    cases b <;> simp only [mapVars, sameValue, ihl, ihr]
  | aggregate op e ih | unary g e ih => cases b <;> simp only [mapVars, sameValue, ih]
  | binary g x y ihx ihy => cases b <;> simp only [mapVars, sameValue, ihx, ihy]

end Expr

namespace Value

def mapVars (f : String → String) : Value → Value
  | expr e => expr (e.mapVars f)
  | v => v

theorem kind_mapVars (f : String → String) (v : Value) : (v.mapVars f).kind = v.kind := by
  cases v with
  | expr e => cases e <;> rfl
  | _ => rfl

theorem number?_mapVars (f : String → String) (v : Value) : (v.mapVars f).number? = v.number? := by
  cases v with
  | expr e => cases e <;> rfl
  | _ => rfl

theorem fault?_mapVars (f : String → String) (v : Value) : (v.mapVars f).fault? = v.fault? := by
  cases v with
  | expr e => cases e <;> rfl
  | _ => rfl

theorem operand_mapVars (f : String → String) (v : Value) :
    (v.mapVars f).operand = Expr.mapVars f <$> v.operand := by
  have hvalidate : (v.mapVars f).validate = v.validate := by
    rw [validate, validate, fault?_mapVars]
  unfold operand
  rw [hvalidate]
  cases v.validate with
  | error e => rfl
  | ok u => cases v <;> rfl

theorem sameValue_mapVars (hf : Function.Injective f) (a b : Value) :
    (a.mapVars f).sameValue (b.mapVars f) = a.sameValue b := by
  cases a with
  | expr e =>
    cases b with
    | expr e' => exact e.sameValue_mapVars hf e'
    | _ => rfl
  | _ => cases b <;> rfl

end Value

namespace Expr

theorem arithmeticOf_mapVars (f : String → String) (left : Expr) (op : ArithmeticOp)
    (right : Value) :
    arithmeticOf (left.mapVars f) op (right.mapVars f) =
      mapVars f <$> arithmeticOf left op right := by
  rw [arithmeticOf, arithmeticOf, Value.operand_mapVars]
  cases right.operand <;> rfl

theorem comparisonOf_mapVars (f : String → String) (left : Expr) (op : ComparisonOp)
    (right : Value) :
    comparisonOf (left.mapVars f) op (right.mapVars f) =
      mapVars f <$> comparisonOf left op right := by
  rw [comparisonOf, comparisonOf, Value.operand_mapVars]
  cases right.operand <;> rfl

theorem aggregateOf_mapVars (f : String → String) (op : AggregateOp) (v : Value) :
    aggregateOf op (v.mapVars f) = mapVars f <$> aggregateOf op v := by
  rw [aggregateOf, aggregateOf, Value.operand_mapVars]
  cases v.operand <;> rfl

theorem unaryOf_mapVars (f : String → String) (g : MathFunction) (v : Value) :
    unaryOf g (v.mapVars f) = mapVars f <$> unaryOf g v := by
  rw [unaryOf, unaryOf, Value.operand_mapVars]
  split
  · cases v.operand <;> rfl
  · rfl

theorem binaryOf_mapVars (f : String → String) (g : MathFunction) (v w : Value) :
    binaryOf g (v.mapVars f) (w.mapVars f) = mapVars f <$> binaryOf g v w := by
  rw [binaryOf, binaryOf, Value.operand_mapVars, Value.operand_mapVars]
  split
  · cases v.operand <;> cases w.operand <;> rfl
  · rfl

end Expr

namespace Comparison

def mapVars (f : String → String) (c : Comparison) : Comparison :=
  ⟨c.left.mapVars f, c.op, c.right.mapVars f⟩

theorem ofValue_mapVars (f : String → String) (v : Value) :
    ofValue (v.mapVars f) = mapVars f <$> ofValue v := by
  cases v with
  | expr e => cases e <;> rfl
  | _ => rfl

end Comparison

namespace CaseResult

def mapVars (f : String → String) : CaseResult → CaseResult
  | color c => color c
  | expr e => expr (e.mapVars f)

theorem ofValue_mapVars (f : String → String) (v : Value) :
    ofValue (v.mapVars f) = mapVars f <$> ofValue v := by
  cases v with
  | color c => rfl
  | expr e =>
    have hoperand := Value.operand_mapVars f (.expr e)
    show (do let e ← ((Value.expr e).mapVars f).operand; pure (expr e)) =
      mapVars f <$> (do let e ← (Value.expr e).operand; pure (expr e))
    rw [hoperand]
    cases (Value.expr e).operand <;> rfl
  | _ => rfl

theorem sameValue_mapVars (hf : Function.Injective f) (a b : CaseResult) :
    (a.mapVars f).sameValue (b.mapVars f) = a.sameValue b := by
  cases a with
  | expr e =>
    cases b with
    | expr e' => exact e.sameValue_mapVars hf e'
    | color c => rfl
  | color c => cases b <;> rfl

end CaseResult

namespace Case

def mapVars (f : String → String) (c : Case) : Case := ⟨c.condition.mapVars f, c.result.mapVars f⟩

theorem ofValues_mapVars (f : String → String) (condition result : Value) :
    ofValues (condition.mapVars f) (result.mapVars f) =
      mapVars f <$> ofValues condition result := by
  rw [ofValues, ofValues, Comparison.ofValue_mapVars, CaseResult.ofValue_mapVars]
  cases Comparison.ofValue condition <;> cases CaseResult.ofValue result <;> rfl

theorem setCondition_mapVars (f : String → String) (c : Case) (v : Value) :
    (c.mapVars f).setCondition (v.mapVars f) = mapVars f <$> c.setCondition v := by
  rw [setCondition, setCondition, Comparison.ofValue_mapVars]
  cases Comparison.ofValue v <;> rfl

theorem setResult_mapVars (f : String → String) (c : Case) (v : Value) :
    (c.mapVars f).setResult (v.mapVars f) = mapVars f <$> c.setResult v := by
  rw [setResult, setResult, CaseResult.ofValue_mapVars]
  cases CaseResult.ofValue v <;> rfl

theorem sameValue_mapVars (hf : Function.Injective f) (a b : Case) :
    (a.mapVars f).sameValue (b.mapVars f) = a.sameValue b := by
  have hcondition := Expr.sameValue_mapVars hf a.condition.toExpr b.condition.toExpr
  have hresult := CaseResult.sameValue_mapVars hf a.result b.result
  rw [sameValue, sameValue, ← hcondition, ← hresult]
  rfl

end Case

namespace Switch

def mapVars (f : String → String) (s : Switch) : Switch :=
  ⟨s.cases.map (Case.mapVars f), s.otherwise.mapVars f⟩

theorem ofCases_mapVars (f : String → String) (cases : List Case) (v : Value) :
    ofCases (cases.map (Case.mapVars f)) (v.mapVars f) = mapVars f <$> ofCases cases v := by
  rw [ofCases, ofCases, CaseResult.ofValue_mapVars]
  simp only [List.map_eq_nil_iff]
  split
  · rfl
  · cases CaseResult.ofValue v <;> rfl

theorem setCases_mapVars (f : String → String) (s : Switch) (cases : List Case) :
    (s.mapVars f).setCases (cases.map (Case.mapVars f)) = mapVars f <$> s.setCases cases := by
  rw [setCases, setCases]
  simp only [List.map_eq_nil_iff]
  split <;> rfl

theorem setDefault_mapVars (f : String → String) (s : Switch) (v : Value) :
    (s.mapVars f).setDefault (v.mapVars f) = mapVars f <$> s.setDefault v := by
  rw [setDefault, setDefault, CaseResult.ofValue_mapVars]
  cases CaseResult.ofValue v <;> rfl

theorem sameCases_map (hf : Function.Injective f) (as bs : List Case) :
    sameCases (as.map (Case.mapVars f)) (bs.map (Case.mapVars f)) = sameCases as bs := by
  induction as generalizing bs with
  | nil => cases bs <;> rfl
  | cons a as ih =>
    cases bs with
    | nil => rfl
    | cons b bs =>
      simp only [List.map_cons, sameCases, ih, a.sameValue_mapVars hf]

theorem sameValue_mapVars (hf : Function.Injective f) (a b : Switch) :
    (a.mapVars f).sameValue (b.mapVars f) = a.sameValue b := by
  simp only [sameValue, mapVars, sameCases_map hf, CaseResult.sameValue_mapVars hf]

end Switch

namespace Pair

theorem element_mapVars (f : String → String) (index : Nat) (v : Value) :
    element index (v.mapVars f) = element index v := by
  rw [element, element, Value.number?_mapVars, Value.kind_mapVars]

theorem ofTuple_map (f : String → String) (index : Nat) (tuple : List Value) :
    ofTuple index (tuple.map (Value.mapVars f)) = ofTuple index tuple := by
  match tuple with
  | [] | [x] => rfl
  | [x, y] => simp only [List.map_cons, List.map_nil, ofTuple, element_mapVars]
  | x :: y :: z :: tuple => simp only [List.map_cons, ofTuple, List.length_cons, List.length_map]

theorem ofTuples_map (f : String → String) (index : Nat) (tuples : List (List Value)) :
    ofTuples index (tuples.map (List.map (Value.mapVars f))) = ofTuples index tuples := by
  induction tuples generalizing index with
  | nil => rfl
  | cons tuple tuples ih => simp only [List.map_cons, ofTuples, ofTuple_map, ih]

end Pair

theorem Grid.ofTuples_map (f : String → String) (tuples : List (List Value)) (op : ComparisonOp) :
    ofTuples (tuples.map (List.map (Value.mapVars f))) op = ofTuples tuples op := by
  match tuples with
  | [] | [x] => rfl
  | [x, y] => simp only [List.map_cons, List.map_nil, ofTuples, Pair.ofTuple_map]
  | x :: y :: z :: tuples => simp only [List.map_cons, ofTuples, List.length_cons, List.length_map]

namespace Clip

def mapVar (f : String → String) (c : Clip) : Clip := { c with var := f c.var }

theorem ofTuples_map (f : String → String) (var : String) (tuples : List (List Value)) :
    ofTuples (f var) (tuples.map (List.map (Value.mapVars f))) =
      mapVar f <$> ofTuples var tuples := by
  rw [ofTuples, ofTuples, Pair.ofTuples_map]
  cases Pair.ofTuples 0 tuples <;> rfl

theorem sameValue_mapVar (hf : Function.Injective f) (a b : Clip) :
    (a.mapVar f).sameValue (b.mapVar f) = a.sameValue b := by
  rw [sameValue, sameValue, mapVar, mapVar, hf.beq_eq]

end Clip

namespace Payload

def mapVars (f : String → String) : Payload → Payload
  | unset => unset
  | expr e => expr (e.mapVars f)
  | switch s => switch (s.mapVars f)
  | grid g => grid g
  | clip c => clip (c.mapVar f)

theorem sameValue_mapVars (hf : Function.Injective f) (a b : Payload) :
    (a.mapVars f).sameValue (b.mapVars f) = a.sameValue b := by
  cases a <;> cases b <;> simp only [mapVars, sameValue, Expr.sameValue_mapVars hf,
    Switch.sameValue_mapVars hf, Clip.sameValue_mapVar hf]

end Payload

namespace Query

def mapVars (f : String → String) (q : Query) : Query :=
  ⟨q.first.mapVar f, q.others.map (Coverage.mapVar f), q.payload.mapVars f⟩

theorem coverages_mapVars (f : String → String) (q : Query) :
    (q.mapVars f).coverages = q.coverages.map (Coverage.mapVar f) := rfl

theorem ofCoverages_map (f : String → String) (coverages : List Coverage) :
    ofCoverages (coverages.map (Coverage.mapVar f)) = mapVars f <$> ofCoverages coverages := by
  cases coverages <;> rfl

theorem returnValue_mapVars (f : String → String) (q : Query) (v : Value) :
    (q.mapVars f).returnValue (v.mapVars f) = mapVars f <$> q.returnValue v := by
  rw [returnValue, returnValue, Value.operand_mapVars]
  cases v.operand <;> rfl

theorem switchOn_mapVars (f : String → String) (q : Query) (cases : List Case) (v : Value) :
    (q.mapVars f).switchOn (cases.map (Case.mapVars f)) (v.mapVars f) =
      mapVars f <$> q.switchOn cases v := by
  rw [switchOn, switchOn, Switch.ofCases_mapVars]
  cases Switch.ofCases cases v <;> rfl

theorem construct_mapVars (f : String → String) (q : Query) (tuples : List (List Value))
    (op : ComparisonOp) : (q.mapVars f).construct (tuples.map (List.map (Value.mapVars f))) op =
      mapVars f <$> q.construct tuples op := by
  rw [construct, construct, Grid.ofTuples_map]
  cases Grid.ofTuples tuples op <;> rfl

/-- The variable that is clipped is that of the first coverage, renamed with it. -/
theorem clip_mapVars (f : String → String) (q : Query) (tuples : List (List Value)) :
    (q.mapVars f).clip (tuples.map (List.map (Value.mapVars f))) = mapVars f <$> q.clip tuples := by
  show (do let c ← Clip.ofTuples (f q.first.var) (tuples.map (List.map (Value.mapVars f)));
           pure ((q.mapVars f).withPayload (.clip c))) = _
  rw [clip, Clip.ofTuples_map]
  cases Clip.ofTuples q.first.var tuples <;> rfl

theorem sameCoverages_map (hf : Function.Injective f) (as bs : List Coverage) :
    sameCoverages (as.map (Coverage.mapVar f)) (bs.map (Coverage.mapVar f)) =
      sameCoverages as bs := by
  induction as generalizing bs with
  | nil => cases bs <;> rfl
  | cons a as ih =>
    cases bs with
    | nil => rfl
    | cons b bs => simp only [List.map_cons, sameCoverages, ih, a.sameValue_mapVar hf]

theorem sameValue_mapVars (hf : Function.Injective f) (a b : Query) :
    (a.mapVars f).sameValue (b.mapVars f) = a.sameValue b := by
  rw [sameValue, sameValue, coverages_mapVars, coverages_mapVars, sameCoverages_map hf]
  exact congrArg _ (Payload.sameValue_mapVars hf _ _)

end Query

end CoverageQuery
