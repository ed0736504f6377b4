import CoverageQuery.Proofs.Query.Gate
import CoverageQuery.Proofs.Query.Tuples

/-!
# Well-formed switches and queries

The setters of cases, switches and queries check what the constructors check, so an object that is
made well-formed stays so.
-/

namespace CoverageQuery

namespace CaseResult

/-- An expression is a well-formed operand. -/
def WellFormed : CaseResult → Prop
  | color _ => True
  | expr e => e.WellFormed ∧ e.IsOperand

theorem wellFormed_of_ofValue {v : Value} {r : CaseResult} (hv : v.WellFormed)
    (h : ofValue v = .ok r) : r.WellFormed := by
  obtain ⟨hpasses, rfl⟩ := ofValue_eq_ok_iff.mp h
  cases r with
  | color c => trivial
  | expr e =>
    obtain ⟨c, ⟨⟩⟩ | ⟨_, ⟨⟩, he⟩ := hpasses
    exact ⟨hv, he⟩

end CaseResult

theorem Comparison.wellFormed_of_ofValue {v : Value} {c : Comparison} (hv : v.WellFormed)
    (h : ofValue v = .ok c) : c.toExpr.WellFormed := by
  cases ofValue_eq_ok_iff.mp h
  exact hv

namespace Case

structure WellFormed (c : Case) : Prop where
  comparison : c.condition.toExpr.kind = .comparison
  condition : c.condition.toExpr.WellFormed
  result : c.result.WellFormed

variable {c d : Case} {v w : Value}

theorem wellFormed_of_ofValues (hv : v.WellFormed) (hw : w.WellFormed)
    (h : ofValues v w = .ok c) : c.WellFormed := by
  obtain ⟨condition, hcondition, hrest⟩ := bind_eq_ok_iff.mp h
  obtain ⟨result, hresult, ⟨⟩⟩ := bind_eq_ok_iff.mp hrest
  exact ⟨rfl, Comparison.wellFormed_of_ofValue hv hcondition,
    CaseResult.wellFormed_of_ofValue hw hresult⟩

theorem WellFormed.setCondition (hc : c.WellFormed) (hv : v.WellFormed)
    (h : c.setCondition v = .ok d) : d.WellFormed := by
  obtain ⟨condition, hcondition, ⟨⟩⟩ := bind_eq_ok_iff.mp h
  exact ⟨rfl, Comparison.wellFormed_of_ofValue hv hcondition, hc.result⟩

theorem WellFormed.setResult (hc : c.WellFormed) (hv : v.WellFormed)
    (h : c.setResult v = .ok d) : d.WellFormed := by
  obtain ⟨result, hresult, ⟨⟩⟩ := bind_eq_ok_iff.mp h
  exact ⟨hc.comparison, hc.condition, CaseResult.wellFormed_of_ofValue hv hresult⟩

end Case

namespace Switch

structure WellFormed (s : Switch) : Prop where
  nonempty : s.cases ≠ []
  cases : ∀ c ∈ s.cases, c.WellFormed
  otherwise : s.otherwise.WellFormed

variable {s t : Switch} {cases : List Case} {v : Value}

theorem wellFormed_of_ofCases (hcases : ∀ c ∈ cases, c.WellFormed) (hv : v.WellFormed)
    (h : ofCases cases v = .ok s) : s.WellFormed := by
  obtain ⟨⟨hne, hpasses⟩, r, rfl, rfl⟩ := ofCases_eq_ok_iff.mp h
  have hr : CaseResult.ofValue r.value = .ok r :=
    CaseResult.ofValue_eq_ok_iff.mpr ⟨hpasses, rfl⟩
  exact ⟨hne, hcases, CaseResult.wellFormed_of_ofValue hv hr⟩

theorem WellFormed.setCases (hs : s.WellFormed) (hcases : ∀ c ∈ cases, c.WellFormed)
    (h : s.setCases cases = .ok t) : t.WellFormed := by
  unfold Switch.setCases at h
  split at h
  · cases h
  · next hne =>
    cases h
    exact ⟨hne, hcases, hs.otherwise⟩

theorem WellFormed.setDefault (hs : s.WellFormed) (hv : v.WellFormed)
    (h : s.setDefault v = .ok t) : t.WellFormed := by
  obtain ⟨otherwise, hotherwise, ⟨⟩⟩ := bind_eq_ok_iff.mp h
  exact ⟨hs.nonempty, hs.cases, CaseResult.wellFormed_of_ofValue hv hotherwise⟩

end Switch

/-- An expression is a well-formed operand, and the numbers of grids and polygons are finite. -/
def Payload.WellFormed : Payload → Prop
  | unset => True
  | expr e => e.WellFormed ∧ e.IsOperand
  | switch s => s.WellFormed
  | grid g => g.Legible
  | clip c => ∀ p ∈ c.vertices, p.Legible

namespace Query

structure WellFormed (q : Query) : Prop where
  nonempty : q.coverages ≠ []
  coverages : ∀ c ∈ q.coverages, c.WellFormed
  payload : q.payload.WellFormed
  /-- What is clipped is the first coverage. -/
  clipped : ∀ c, q.payload = .clip c → c.var = q.first.var

variable {q r : Query} {v : Value}

theorem wellFormed_ofCoverage {c : Coverage} (h : c.WellFormed) : (ofCoverage c).WellFormed :=
  ⟨nofun, List.forall_mem_singleton.mpr h, trivial, nofun⟩

theorem wellFormed_of_ofCoverages {cs : List Coverage} (hcs : ∀ c ∈ cs, c.WellFormed)
    (h : ofCoverages cs = .ok q) : q.WellFormed := by
  unfold ofCoverages at h
  split at h
  · cases h
  · cases h
    exact ⟨nofun, hcs, trivial, nofun⟩

namespace WellFormed

theorem withPayload (hq : q.WellFormed) {payload : Payload} (hpayload : payload.WellFormed)
    (hclipped : ∀ c, payload = .clip c → c.var = q.first.var) :
    (q.withPayload payload).WellFormed :=
  ⟨hq.nonempty, hq.coverages, hpayload, hclipped⟩

theorem returnValue (hq : q.WellFormed) (hv : v.WellFormed) (h : q.returnValue v = .ok r) :
    r.WellFormed := by
  obtain ⟨e, he, ⟨⟩⟩ := bind_eq_ok_iff.mp h
  exact hq.withPayload (hv.operand he) nofun

theorem returnSwitch (hq : q.WellFormed) {s : Switch} (hs : s.WellFormed) :
    (q.returnSwitch s).WellFormed :=
  hq.withPayload hs nofun

theorem switchOn (hq : q.WellFormed) {cases : List Case} (hcases : ∀ c ∈ cases, c.WellFormed)
    (hv : v.WellFormed) (h : q.switchOn cases v = .ok r) : r.WellFormed := by
  obtain ⟨s, hs, ⟨⟩⟩ := bind_eq_ok_iff.mp h
  exact hq.returnSwitch (Switch.wellFormed_of_ofCases hcases hv hs)

theorem construct (hq : q.WellFormed) {tuples : List (List Value)} {op : ComparisonOp}
    (h : q.construct tuples op = .ok r) : r.WellFormed := by
  obtain ⟨x, y, hx, hy, -, rfl⟩ := construct_eq_ok_iff.mp h
  exact hq.withPayload ⟨hx, hy⟩ nofun

theorem clip (hq : q.WellFormed) {tuples : List (List Value)} (h : q.clip tuples = .ok r) :
    r.WellFormed := by
  obtain ⟨vertices, hvertices, -, rfl⟩ := clip_eq_ok_iff.mp h
  refine hq.withPayload hvertices ?_
  rintro _ ⟨⟩
  rfl

end WellFormed

end Query

end CoverageQuery
