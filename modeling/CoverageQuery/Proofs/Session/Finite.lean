import CoverageQuery.Proofs.Query.Numbers
import CoverageQuery.Proofs.Session.WellFormed

/-!
# Numbers that are not finite

The gate looks at the root of what it is offered, and so do cases, switches and queries. Everything
below has passed the gate before, except for the left operand of a binary node. So an accepted
object has only finite numbers exactly if the bare numbers to the left of its operators are finite.
-/

namespace CoverageQuery

theorem CaseResult.WellFormed.trees {r : CaseResult} (h : r.WellFormed) :
    ∀ e ∈ r.trees, e.WellFormed ∧ e.IsOperand := by
  cases r with
  | color c => exact nofun
  | expr e => exact List.forall_mem_singleton.mpr h

theorem Case.WellFormed.trees {c : Case} (h : c.WellFormed) :
    ∀ e ∈ c.trees, e.WellFormed ∧ e.IsOperand := by
  rw [Case.trees, List.forall_mem_cons]
  exact ⟨⟨h.condition, trivial⟩, h.result.trees⟩

theorem Switch.WellFormed.trees {s : Switch} (h : s.WellFormed) :
    ∀ e ∈ s.trees, e.WellFormed ∧ e.IsOperand := by
  rw [Switch.trees, List.forall_mem_append, List.forall_mem_flatMap]
  exact ⟨fun c hc => (h.cases c hc).trees, h.otherwise.trees⟩

namespace Payload.WellFormed

variable {p : Payload}

theorem trees (h : p.WellFormed) : ∀ e ∈ p.trees, e.WellFormed ∧ e.IsOperand := by
  cases p with
  | expr e => exact List.forall_mem_singleton.mpr h
  | switch s => exact Switch.WellFormed.trees h
  | _ => exact nofun

theorem points (h : p.WellFormed) : ∀ n ∈ p.points.flatMap Pair.numbers, n.IsFinite := by
  have of_legible : ∀ q : Pair, q.Legible → ∀ n ∈ q.numbers, n.IsFinite := by
    intro q hq
    rw [Pair.numbers, List.forall_mem_cons, List.forall_mem_singleton]
    exact ⟨hq.x, hq.y⟩
  rw [List.forall_mem_flatMap]
  cases p with
  | grid g =>
    rw [Payload.points, List.forall_mem_cons, List.forall_mem_singleton]
    exact ⟨of_legible g.x h.x, of_legible g.y h.y⟩
  | clip c => exact fun q hq => of_legible q (h q hq)
  | _ => exact nofun

end Payload.WellFormed

namespace Object

/-- The trees that an object is made of; a coverage is one. -/
def trees : Object → List Expr
  | coverage c => [.coverage c]
  | value (.expr e) => [e]
  | case c => c.trees
  | switch s => s.trees
  | query q => q.coverages.map .coverage ++ q.payload.trees
  | axis _ | value _ => []

/-- The numbers that stand outside of all trees. -/
def looseNumbers : Object → List Number
  | axis a => a.numbers
  | query q => q.payload.points.flatMap Pair.numbers
  | coverage _ | value _ | case _ | switch _ => []

def numbers (o : Object) : List Number := o.trees.flatMap Expr.numbers ++ o.looseNumbers

/-- The gate accepts the object, if it is a value; any other was accepted when it was made. -/
def Accepted : Object → Prop
  | value v => v.validate = .ok ()
  | _ => True

namespace WellFormed

variable {o : Object}

theorem looseNumbers (h : o.WellFormed) : ∀ n ∈ o.looseNumbers, n.IsFinite := by
  cases o with
  | axis a => exact AxisSubset.WellFormed.isFinite h
  | query q => exact (Query.WellFormed.payload h).points
  | _ => exact nofun

theorem trees (h : o.WellFormed) (haccepted : o.Accepted) :
    ∀ e ∈ o.trees, e.WellFormed ∧ e.IsOperand := by
  cases o with
  | coverage c => exact List.forall_mem_singleton.mpr ⟨h, trivial⟩
  | axis a => exact nofun
  | value v =>
    obtain ⟨e, rfl, hoperand⟩ := Value.validate_eq_ok_iff.mp haccepted
    exact List.forall_mem_singleton.mpr ⟨h, hoperand⟩
  | case c => exact Case.WellFormed.trees h
  | switch s => exact Switch.WellFormed.trees h
  | query q =>
    rw [Object.trees, List.forall_mem_append, List.forall_mem_map]
    exact ⟨fun c hc => ⟨Query.WellFormed.coverages h c hc, trivial⟩,
      (Query.WellFormed.payload h).trees⟩

theorem forall_isFinite_iff (h : o.WellFormed) (haccepted : o.Accepted) :
    (∀ n ∈ o.numbers, n.IsFinite) ↔ ∀ e ∈ o.trees, ∀ n ∈ e.leftNumbers, n.IsFinite := by
  have htrees := h.trees haccepted
  rw [numbers, List.forall_mem_append, List.forall_mem_flatMap]
  constructor
  · rintro ⟨hfinite, -⟩ e he
    exact ((htrees e he).1.forall_isFinite_iff.mp (hfinite e he)).2
  · intro hleft
    refine ⟨fun e he => ?_, h.looseNumbers⟩
    obtain ⟨hwellFormed, hoperand⟩ := htrees e he
    exact hwellFormed.forall_isFinite_iff.mpr ⟨hoperand, hleft e he⟩

end WellFormed

end Object

namespace Session

/-- Whatever was done before, an accepted object holds only finite numbers, which are written
without a letter of any other, exactly if the bare numbers to the left of its operators are finite.
-/
theorem numbers_isFinite_iff (first : UInt64) (steps : List Step) {name : String} {o : Object}
    (ho : ((start first).run steps).2.get? name = some o) (haccepted : o.Accepted) :
    (∀ n ∈ o.numbers, n.IsFinite ∧ ∀ c ∈ n.chars, Numeral.Mark c) ↔
      ∀ e ∈ o.trees, ∀ n ∈ e.leftNumbers, n.IsFinite := by
  have hwellFormed := ((wellFormed_start first).run steps).lookup ho
  rw [← hwellFormed.forall_isFinite_iff haccepted]
  constructor
  · intro h n hn
    exact (h n hn).1
  · intro h n hn
    exact ⟨h n hn, Number.isFinite_iff_forall_mark.mp (h n hn)⟩

/-- The sum of one and a coverage has a finite number only. -/
theorem numbers_isFinite_iff_sum :
    ∃ e : Expr, ((start 1).run [.create "x" (.value (.arithmetic (.number (.int 1)) .add
        (.coverage ["A"] none)))]).2.get? "x" = some (.value (.expr e)) ∧
      ∀ n ∈ (Object.value (.expr e)).numbers, n.IsFinite ∧ ∀ c ∈ n.chars, Numeral.Mark c := by
  let sum : Expr := .arithmetic (.number (.int 1)) .add (.coverage ⟨["A"], "$i1", none⟩)
  have hsum : ((start 1).run [.create "x" (.value (.arithmetic (.number (.int 1)) .add
      (.coverage ["A"] none)))]).2.get? "x" = some (.value (.expr sum)) := rfl
  have hleft : ∀ e ∈ (Object.value (.expr sum)).trees, ∀ n ∈ e.leftNumbers, n.IsFinite := by
    decide
  exact ⟨sum, hsum, (numbers_isFinite_iff 1 _ hsum rfl).mpr hleft⟩

/-- A left operand is not checked: a sum of which it is one passes the gate, and the query that
returns the sum is written with it. -/
theorem accepted_nan_left :
    let sum : Recipe := .arithmetic (.number (.float .nan)) .add (.number (.int 1))
    ∃ q : Query, ((start 1).run [.create "c" (.coverage ["A"]), .create "q" (.queryOver "c"),
        .edit "q" (.returnValue sum)]).2.get? "q" = some (.query q) ∧
      (Object.query q).Accepted ∧ (¬∀ n ∈ (Object.query q).numbers, n.IsFinite) ∧
      q.render = "for $i1 in (A) return (NaN + 1)" := by
  refine ⟨⟨⟨["A"], "$i1", none⟩, [], .expr (.arithmetic (.number (.float .nan)) .add
    (.number (.int 1)))⟩, rfl, trivial, ?_, ?_⟩
  · decide
  · decide

end Session

end CoverageQuery
