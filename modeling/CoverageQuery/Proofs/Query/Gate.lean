import CoverageQuery.Proofs.Expr.WellFormed
import CoverageQuery.Query.Basic

/-!
# One gate for all operands

Whatever is built of a value that a caller offers sends it through the same check: an operand of a
node, the result of a case, the default of a switch, what a query returns. So a value is taken, or
refused for the same reason, wherever it is offered, and where several values are checked the first
that fails decides.
-/

namespace CoverageQuery

namespace Value

/-- Why a value is no operand. -/
inductive Refused : Value → OperandFault → Prop
  | nonFinite {n : Number} (h : ¬n.IsFinite) : Refused (.expr (.number n)) .nonFinite
  | kind {v : Value} (h : ∀ e, v ≠ .expr e) : Refused v (.kind v.kind)

variable {v : Value} {fault : OperandFault} {error : QueryError}

theorem refused_iff : v.Refused fault ↔ v.fault? = some fault := by
  constructor
  · intro h
    cases h with
    | nonFinite h => exact if_neg h
    | kind h =>
      unfold fault?
      split
      · exact absurd rfl (h _)
      · exact absurd rfl (h _)
      · rfl
  · intro h
    unfold fault? at h
    split at h
    · obtain ⟨hn, ⟨⟩⟩ := Option.ite_none_left_eq_some.mp h
      exact .nonFinite hn
    · cases h
    · next hv =>
      cases h
      exact .kind hv

theorem validate_eq_error_iff :
    v.validate = .error error ↔ ∃ fault, v.Refused fault ∧ error = .operand fault := by
  simp only [refused_iff, validate]
  cases v.fault? <;> simp [eq_comm]

/-- What passes the check is an expression, so nothing is refused after it. -/
theorem operand_eq_error_iff : v.operand = .error error ↔ v.validate = .error error := by
  unfold operand
  rw [bind_eq_error_iff, or_iff_left]
  rintro ⟨⟨⟩, hvalid, h⟩
  obtain ⟨e, rfl, -⟩ := validate_eq_ok_iff.mp hvalid
  cases h

end Value

/-- The value that a result was given as. -/
def CaseResult.value : CaseResult → Value
  | color c => .color c
  | expr e => .expr e

/-- Something that is built of values, some of which are checked. -/
inductive Construction : Type → Type where
  | arithmetic (left : Expr) (op : ArithmeticOp) (right : Value) : Construction Expr
  | comparison (left : Expr) (op : ComparisonOp) (right : Value) : Construction Expr
  | aggregate (op : AggregateOp) (argument : Value) : Construction Expr
  | unary (f : MathFunction) (argument : Value) : Construction Expr
  | binary (f : MathFunction) (first second : Value) : Construction Expr
  | case (condition result : Value) : Construction Case
  | setCondition (c : Case) (condition : Value) : Construction Case
  | setResult (c : Case) (result : Value) : Construction Case
  | switch (cases : List Case) (otherwise : Value) : Construction Switch
  | setDefault (s : Switch) (otherwise : Value) : Construction Switch
  | returnValue (q : Query) (v : Value) : Construction Query
  | switchOn (q : Query) (cases : List Case) (otherwise : Value) : Construction Query

/-- Something that is checked before anything is built. -/
inductive Check where
  | arity (f : MathFunction) (found : Nat)
  | operand (v : Value)
  | result (v : Value)
  | condition (v : Value)
  | nonempty (cases : List Case)

namespace Check

/-- A result may be a color and is an operand otherwise. -/
def Passes : Check → Prop
  | arity f found => f.arity = found
  | operand v => ∃ e : Expr, v = .expr e ∧ e.IsOperand
  | result v => (∃ c, v = .color c) ∨ ∃ e : Expr, v = .expr e ∧ e.IsOperand
  | condition v => ∃ c : Comparison, v = .expr c.toExpr
  | nonempty cases => cases ≠ []

def Fails : Check → QueryError → Prop
  | arity f found, error => f.arity ≠ found ∧ error = .arity f.arity found
  | operand v, error => ∃ fault, v.Refused fault ∧ error = .operand fault
  | result v, error =>
    (∀ c, v ≠ .color c) ∧ ∃ fault, v.Refused fault ∧ error = .operand fault
  | condition v, error => (∀ c : Comparison, v ≠ .expr c.toExpr) ∧ error = .condition v.kind
  | nonempty cases, error => cases = [] ∧ error = .emptyCases

/-- The first of some checks that does not pass fails with this error. -/
inductive FirstFailure : List Check → QueryError → Prop
  | here {check : Check} {checks : List Check} {error : QueryError} (h : check.Fails error) :
    FirstFailure (check :: checks) error
  | later {check : Check} {checks : List Check} {error : QueryError} (h : check.Passes)
    (hrest : FirstFailure checks error) : FirstFailure (check :: checks) error

variable {check : Check} {checks : List Check} {error : QueryError}

theorem firstFailure_nil : ¬FirstFailure [] error := nofun

theorem firstFailure_cons :
    FirstFailure (check :: checks) error ↔
      check.Fails error ∨ check.Passes ∧ FirstFailure checks error := by
  constructor
  · intro h
    cases h with
    | here h => exact .inl h
    | later h hrest => exact .inr ⟨h, hrest⟩
  · rintro (h | ⟨h, hrest⟩)
    · exact .here h
    · exact .later h hrest

theorem firstFailure_singleton : FirstFailure [check] error ↔ check.Fails error := by
  rw [firstFailure_cons, or_iff_left]
  exact fun h => firstFailure_nil h.2

end Check

/-! ### What each check does -/

namespace Value

variable {v : Value} {error : QueryError}

theorem passes_operand_iff : (Check.operand v).Passes ↔ ∃ e, v.operand = .ok e := by
  simp only [Check.Passes, operand_eq_ok_iff]

theorem fails_operand_iff : (Check.operand v).Fails error ↔ v.operand = .error error := by
  rw [operand_eq_error_iff, validate_eq_error_iff, Check.Fails]

end Value

namespace CaseResult

variable {v : Value} {r : CaseResult} {error : QueryError}

theorem ofValue_color (c : Color) : ofValue (.color c) = .ok (.color c) := rfl

theorem ofValue_of_ne (h : ∀ c, v ≠ .color c) :
    ofValue v = (do let e ← v.operand; pure (expr e)) := by
  cases v with
  | color c => exact absurd rfl (h c)
  | _ => rfl

theorem ofValue_eq_ok_iff : ofValue v = .ok r ↔ (Check.result v).Passes ∧ v = r.value := by
  by_cases hcolor : ∃ c, v = .color c
  · obtain ⟨c, rfl⟩ := hcolor
    rw [ofValue_color, Except.ok.injEq]
    constructor
    · rintro rfl
      exact ⟨.inl ⟨c, rfl⟩, rfl⟩
    · rintro ⟨-, h⟩
      cases r <;> cases h
      rfl
  · have hne : ∀ c, v ≠ .color c := fun c hc => hcolor ⟨c, hc⟩
    simp only [ofValue_of_ne hne, bind_eq_ok_iff, Value.operand_eq_ok_iff, Check.Passes]
    constructor
    · rintro ⟨e, ⟨rfl, he⟩, ⟨⟩⟩
      exact ⟨.inr ⟨e, rfl, he⟩, rfl⟩
    · rintro ⟨hc | ⟨e, rfl, he⟩, h⟩
      · exact absurd hc hcolor
      · cases r <;> cases h
        exact ⟨e, ⟨rfl, he⟩, rfl⟩

theorem fails_result_iff : (Check.result v).Fails error ↔ ofValue v = .error error := by
  by_cases hcolor : ∃ c, v = .color c
  · obtain ⟨c, rfl⟩ := hcolor
    exact iff_of_false (fun h => h.1 c rfl) nofun
  · have hne : ∀ c, v ≠ .color c := fun c hc => hcolor ⟨c, hc⟩
    rw [ofValue_of_ne hne, bind_pure_eq_error_iff, ← Value.fails_operand_iff]
    exact and_iff_right hne

end CaseResult

namespace Comparison

variable {v : Value} {c : Comparison} {error : QueryError}

theorem ofValue_eq_ok_iff : ofValue v = .ok c ↔ v = .expr c.toExpr := by
  unfold ofValue
  split
  · next left op right =>
    rw [Except.ok.injEq]
    constructor
    · rintro rfl
      rfl
    · rintro ⟨⟩
      rfl
  · next hne =>
    refine iff_of_false nofun ?_
    rintro rfl
    exact hne _ _ _ rfl

theorem passes_condition_iff : (Check.condition v).Passes ↔ ∃ c, ofValue v = .ok c := by
  simp only [Check.Passes, ofValue_eq_ok_iff]

theorem fails_condition_iff : (Check.condition v).Fails error ↔ ofValue v = .error error := by
  unfold ofValue
  split
  · next left op right => exact iff_of_false (fun h => h.1 ⟨left, op, right⟩ rfl) nofun
  · next hne =>
    rw [Except.error.injEq, eq_comm]
    refine and_iff_right ?_
    rintro c rfl
    exact hne _ _ _ rfl

end Comparison

section Steps

variable {α : Type} {v : Value} {a : α} {error : QueryError}

theorem operand_bind_eq_ok_iff {f : Expr → α} :
    (do let e ← v.operand; pure (f e)) = .ok a ↔
      (Check.operand v).Passes ∧ ∃ e, v = .expr e ∧ a = f e := by
  simp only [bind_eq_ok_iff, Value.operand_eq_ok_iff, Check.Passes]
  constructor
  · rintro ⟨e, ⟨rfl, he⟩, ⟨⟩⟩
    exact ⟨⟨e, rfl, he⟩, e, rfl, rfl⟩
  · rintro ⟨⟨e, rfl, he⟩, _, ⟨⟩, rfl⟩
    exact ⟨e, ⟨rfl, he⟩, rfl⟩

theorem result_bind_eq_ok_iff {f : CaseResult → α} :
    (do let r ← CaseResult.ofValue v; pure (f r)) = .ok a ↔
      (Check.result v).Passes ∧ ∃ r : CaseResult, v = r.value ∧ a = f r := by
  simp only [bind_eq_ok_iff, CaseResult.ofValue_eq_ok_iff]
  constructor
  · rintro ⟨r, ⟨hpasses, hv⟩, ⟨⟩⟩
    exact ⟨hpasses, r, hv, rfl⟩
  · rintro ⟨hpasses, r, hv, rfl⟩
    exact ⟨r, ⟨hpasses, hv⟩, rfl⟩

theorem condition_bind_eq_ok_iff {f : Comparison → α} :
    (do let c ← Comparison.ofValue v; pure (f c)) = .ok a ↔
      (Check.condition v).Passes ∧ ∃ c : Comparison, v = .expr c.toExpr ∧ a = f c := by
  simp only [bind_eq_ok_iff, Comparison.ofValue_eq_ok_iff, Check.Passes]
  constructor
  · rintro ⟨c, hv, ⟨⟩⟩
    exact ⟨⟨c, hv⟩, c, hv, rfl⟩
  · rintro ⟨-, c, hv, rfl⟩
    exact ⟨c, hv, rfl⟩

theorem arity_eq_error_iff {f : MathFunction} {n : Nat} {step : Except QueryError α} :
    (if f.arity = n then step else .error (.arity f.arity n)) = .error error ↔
      (Check.arity f n).Fails error ∨ (Check.arity f n).Passes ∧ step = .error error := by
  by_cases harity : f.arity = n
  · rw [if_pos harity]
    constructor
    · exact fun h => .inr ⟨harity, h⟩
    · rintro (⟨hne, -⟩ | ⟨-, h⟩)
      · exact absurd harity hne
      · exact h
  · rw [if_neg harity, Except.error.injEq]
    constructor
    · rintro rfl
      exact .inl ⟨harity, rfl⟩
    · rintro (⟨-, rfl⟩ | ⟨h, -⟩)
      · rfl
      · exact absurd h harity

theorem ofCases_eq_ok_iff {cases : List Case} {s : Switch} :
    Switch.ofCases cases v = .ok s ↔
      (cases ≠ [] ∧ (Check.result v).Passes) ∧ ∃ r : CaseResult, v = r.value ∧ s = ⟨cases, r⟩ := by
  by_cases hcases : cases = []
  · rw [Switch.ofCases, if_pos hcases]
    exact iff_of_false nofun fun h => h.1.1 hcases
  · rw [Switch.ofCases, if_neg hcases, result_bind_eq_ok_iff, and_iff_right hcases]

theorem ofCases_eq_error_iff {cases : List Case} :
    Switch.ofCases cases v = .error error ↔
      Check.FirstFailure [.nonempty cases, .result v] error := by
  rw [Check.firstFailure_cons, Check.firstFailure_singleton, CaseResult.fails_result_iff]
  by_cases hcases : cases = []
  · rw [Switch.ofCases, if_pos hcases, Except.error.injEq]
    constructor
    · rintro rfl
      exact .inl ⟨hcases, rfl⟩
    · rintro (⟨-, rfl⟩ | ⟨hne, -⟩)
      · rfl
      · exact absurd hcases hne
  · rw [Switch.ofCases, if_neg hcases, bind_pure_eq_error_iff]
    constructor
    · exact fun h => .inr ⟨hcases, h⟩
    · rintro (⟨hnil, -⟩ | ⟨-, h⟩)
      · exact absurd hnil hcases
      · exact h

end Steps

namespace Construction

/-- Builds what is described. -/
def build {α : Type} : Construction α → Except QueryError α
  | arithmetic left op right => Expr.arithmeticOf left op right
  | comparison left op right => Expr.comparisonOf left op right
  | aggregate op argument => Expr.aggregateOf op argument
  | unary f argument => Expr.unaryOf f argument
  | binary f first second => Expr.binaryOf f first second
  | case condition result => Case.ofValues condition result
  | setCondition c condition => c.setCondition condition
  | setResult c result => c.setResult result
  | switch cases otherwise => Switch.ofCases cases otherwise
  | setDefault s otherwise => s.setDefault otherwise
  | returnValue q v => q.returnValue v
  | switchOn q cases otherwise => q.switchOn cases otherwise

/-- What is checked, in this order. -/
def checks {α : Type} : Construction α → List Check
  | arithmetic _ _ right | comparison _ _ right => [.operand right]
  | aggregate _ argument => [.operand argument]
  | unary f argument => [.arity f 1, .operand argument]
  | binary f first second => [.arity f 2, .operand first, .operand second]
  | case condition result => [.condition condition, .result result]
  | setCondition _ condition => [.condition condition]
  | setResult _ result => [.result result]
  | switch cases otherwise | switchOn _ cases otherwise => [.nonempty cases, .result otherwise]
  | setDefault _ otherwise => [.result otherwise]
  | returnValue _ v => [.operand v]

/-- What comes of values that pass: each of them stands in its place as it was offered. -/
def Yields : {α : Type} → Construction α → α → Prop
  | _, arithmetic left op right, e => ∃ y, right = .expr y ∧ e = .arithmetic left op y
  | _, comparison left op right, e => ∃ y, right = .expr y ∧ e = .comparison left op y
  | _, aggregate op argument, e => ∃ x, argument = .expr x ∧ e = .aggregate op x
  | _, unary f argument, e => ∃ x, argument = .expr x ∧ e = .unary f x
  | _, binary f first second, e =>
    ∃ x y, first = .expr x ∧ second = .expr y ∧ e = .binary f x y
  | _, case condition result, c =>
    ∃ k r, condition = .expr (Comparison.toExpr k) ∧ result = CaseResult.value r ∧ c = ⟨k, r⟩
  | _, setCondition c condition, d =>
    ∃ k, condition = .expr (Comparison.toExpr k) ∧ d = { c with condition := k }
  | _, setResult c result, d => ∃ r, result = CaseResult.value r ∧ d = { c with result := r }
  | _, switch cases otherwise, s => ∃ r, otherwise = CaseResult.value r ∧ s = ⟨cases, r⟩
  | _, setDefault s otherwise, t =>
    ∃ r, otherwise = CaseResult.value r ∧ t = { s with otherwise := r }
  | _, returnValue q v, p => ∃ e, v = .expr e ∧ p = { q with payload := .expr e }
  | _, switchOn q cases otherwise, p =>
    ∃ r, otherwise = CaseResult.value r ∧ p = { q with payload := .switch ⟨cases, r⟩ }

variable {α : Type} {a : α} {error : QueryError}

theorem build_eq_ok_iff (c : Construction α) :
    c.build = .ok a ↔ (∀ check ∈ c.checks, check.Passes) ∧ c.Yields a := by
  cases c with
  | arithmetic left op right | comparison left op right | aggregate op argument | returnValue q v =>
    rw [checks, List.forall_mem_singleton]
    exact operand_bind_eq_ok_iff
  | unary f argument =>
    rw [checks, List.forall_mem_cons, List.forall_mem_singleton]
    by_cases harity : f.arity = 1
    · rw [build, Expr.unaryOf, if_pos harity, operand_bind_eq_ok_iff]
      exact and_congr_left' (and_iff_right harity).symm
    · rw [build, Expr.unaryOf, if_neg harity]
      exact iff_of_false nofun fun h => harity h.1.1
  | binary f first second =>
    rw [checks, List.forall_mem_cons, List.forall_mem_cons, List.forall_mem_singleton]
    by_cases harity : f.arity = 2
    · rw [build, Expr.binaryOf, if_pos harity, bind_eq_ok_iff]
      simp only [operand_bind_eq_ok_iff, Value.operand_eq_ok_iff]
      constructor
      · rintro ⟨x, ⟨rfl, hx⟩, hsecond, y, rfl, rfl⟩
        exact ⟨⟨harity, ⟨x, rfl, hx⟩, hsecond⟩, x, y, rfl, rfl, rfl⟩
      · rintro ⟨⟨-, ⟨x, rfl, hx⟩, hsecond⟩, _, y, ⟨⟩, rfl, rfl⟩
        exact ⟨x, ⟨rfl, hx⟩, hsecond, y, rfl, rfl⟩
    · rw [build, Expr.binaryOf, if_neg harity]
      exact iff_of_false nofun fun h => harity h.1.1
  | case condition result =>
    rw [checks, List.forall_mem_cons, List.forall_mem_singleton]
    rw [build, Case.ofValues, bind_eq_ok_iff]
    simp only [Comparison.ofValue_eq_ok_iff, result_bind_eq_ok_iff]
    constructor
    · rintro ⟨k, rfl, hresult, r, rfl, rfl⟩
      exact ⟨⟨⟨k, rfl⟩, hresult⟩, k, r, rfl, rfl, rfl⟩
    · rintro ⟨⟨-, hresult⟩, k, r, rfl, rfl, rfl⟩
      exact ⟨k, rfl, hresult, r, rfl, rfl⟩
  | setCondition c condition =>
    rw [checks, List.forall_mem_singleton]
    exact condition_bind_eq_ok_iff
  | setResult c result | setDefault s otherwise =>
    rw [checks, List.forall_mem_singleton]
    exact result_bind_eq_ok_iff
  | switch cases otherwise =>
    rw [checks, List.forall_mem_cons, List.forall_mem_singleton]
    exact ofCases_eq_ok_iff
  | switchOn q cases otherwise =>
    rw [checks, List.forall_mem_cons, List.forall_mem_singleton]
    simp only [build, Query.switchOn, bind_eq_ok_iff, ofCases_eq_ok_iff]
    constructor
    · rintro ⟨s, ⟨hchecks, r, rfl, rfl⟩, ⟨⟩⟩
      exact ⟨hchecks, r, rfl, rfl⟩
    · rintro ⟨hchecks, r, rfl, rfl⟩
      exact ⟨⟨cases, r⟩, ⟨hchecks, r, rfl, rfl⟩, rfl⟩

theorem build_eq_error_iff (c : Construction α) :
    c.build = .error error ↔ Check.FirstFailure c.checks error := by
  cases c with
  | arithmetic left op right | comparison left op right | aggregate op argument | returnValue q v =>
    rw [checks, Check.firstFailure_singleton, Value.fails_operand_iff]
    exact bind_pure_eq_error_iff
  | unary f argument =>
    rw [checks, Check.firstFailure_cons, Check.firstFailure_singleton, Value.fails_operand_iff,
      build, Expr.unaryOf, arity_eq_error_iff, bind_pure_eq_error_iff]
  | binary f first second =>
    rw [checks, Check.firstFailure_cons, Check.firstFailure_cons, Check.firstFailure_singleton,
      build, Expr.binaryOf, arity_eq_error_iff, bind_eq_error_iff, Value.passes_operand_iff]
    simp only [Value.fails_operand_iff, bind_pure_eq_error_iff, exists_and_right]
  | case condition result =>
    rw [checks, Check.firstFailure_cons, Check.firstFailure_singleton, build, Case.ofValues,
      bind_eq_error_iff, Comparison.passes_condition_iff]
    simp only [Comparison.fails_condition_iff, CaseResult.fails_result_iff,
      bind_pure_eq_error_iff, exists_and_right]
  | setCondition c condition =>
    rw [checks, Check.firstFailure_singleton, Comparison.fails_condition_iff]
    exact bind_pure_eq_error_iff
  | setResult c result | setDefault s otherwise =>
    rw [checks, Check.firstFailure_singleton, CaseResult.fails_result_iff]
    exact bind_pure_eq_error_iff
  | switch cases otherwise => exact ofCases_eq_error_iff
  | switchOn q cases otherwise => exact bind_pure_eq_error_iff.trans ofCases_eq_error_iff

end Construction

end CoverageQuery
