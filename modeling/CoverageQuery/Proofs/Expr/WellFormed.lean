import CoverageQuery.Expr.Operand
import CoverageQuery.Proofs.DateLabel.Spelling
import CoverageQuery.Proofs.Steps

/-!
# Well-formed expressions

An operand is any expression but a number that is not finite. The gate lets exactly the operands
through, so every node that is built of well-formed values is well-formed: all its operands are
operands, but for the left one of a binary node, which does not pass the gate.
-/

namespace CoverageQuery

/-- A text is blank exactly if trimming leaves nothing of it. -/
theorem Text.blank_iff_trim {text : String} : Blank text ↔ trim text.toList = [] := by
  rw [trim, List.reverse_eq_nil_iff, List.dropWhile_eq_nil_iff]
  simp only [List.mem_reverse]
  constructor
  · intro h c hc
    exact h c ((List.dropWhile_sublist isBlank).subset hc)
  · intro h
    have hrest : text.toList.dropWhile isBlank = [] := by
      by_contra hne
      have hfirst := List.head_dropWhile_not isBlank hne
      rw [h _ (List.head_mem hne)] at hfirst
      cases hfirst
    exact List.dropWhile_eq_nil_iff.mp hrest

/-- A label that is made has its parts in range. -/
theorem DateLabel.wellFormed_of_ofParts {year : Int} {month day : Option Nat} {d : DateLabel}
    (h : ofParts year month day = .ok d) : d.WellFormed := by
  by_cases hyear : DatePart.year.Allows year
  · obtain ⟨n, rfl⟩ := Int.eq_ofNat_of_zero_le (Int.le_trans (by decide) hyear.1)
    exact (eq_of_ofParts h).2
  · rw [ofParts, checkPart, if_neg hyear] at h
    cases h

namespace Coverage

theorem wellFormed_of_ofNames {names : List String} {var : String} {c : Coverage}
    (h : ofNames names var = .ok c) : c.WellFormed := by
  unfold ofNames at h
  split at h
  · next hnames =>
    cases h
    exact ⟨hnames, nofun⟩
  · cases h

theorem wellFormed_of_allocate {names : List String} {supply : VariableSupply} {c : Coverage}
    (h : (allocate names supply).1 = .ok c) : c.WellFormed := by
  unfold allocate at h
  split at h
  · next hnames =>
    cases h
    exact wellFormed_of_ofNames hnames
  · cases h

namespace WellFormed

variable {c d : Coverage}

theorem setVariable (h : c.WellFormed) (var : String) : (c.setVariable var).WellFormed :=
  ⟨h.names, h.subset⟩

theorem setNames (hc : c.WellFormed) {names : List String} (h : c.setNames names = .ok d) :
    d.WellFormed := by
  unfold Coverage.setNames at h
  split at h
  · next hnames =>
    cases h
    exact ⟨hnames, hc.subset⟩
  · cases h

theorem setSubset (hc : c.WellFormed) {axes : List AxisSubset}
    (haxes : ∀ a ∈ axes, a.WellFormed) (h : c.setSubset axes = .ok d) : d.WellFormed := by
  unfold Coverage.setSubset at h
  split at h
  · cases h
  · next hne =>
    cases h
    refine ⟨hc.names, ?_⟩
    rintro _ ⟨⟩
    exact ⟨hne, haxes⟩

theorem clearSubset (h : c.WellFormed) : c.clearSubset.WellFormed := ⟨h.names, nofun⟩

end WellFormed

end Coverage

namespace Expr

/-- Anything but a number that is not finite. -/
def IsOperand : Expr → Prop
  | number n => n.IsFinite
  | _ => True

instance : DecidablePred IsOperand
  | number n => inferInstanceAs (Decidable n.IsFinite)
  | coverage _ | arithmetic _ _ _ | comparison _ _ _ | aggregate _ _ | unary _ _ | binary _ _ _ =>
    isTrue trivial

/-- The coverages are well-formed, the functions have as many arguments as they take, and what
stands to the right of an operator or as an argument is an operand. -/
def WellFormed : Expr → Prop
  | coverage c => c.WellFormed
  | arithmetic left _ right => left.WellFormed ∧ right.WellFormed ∧ right.IsOperand
  | comparison left _ right => left.WellFormed ∧ right.WellFormed ∧ right.IsOperand
  | number _ => True
  | aggregate _ argument => argument.WellFormed ∧ argument.IsOperand
  | unary f argument => f.arity = 1 ∧ argument.WellFormed ∧ argument.IsOperand
  | binary f first second =>
    f.arity = 2 ∧ (first.WellFormed ∧ first.IsOperand) ∧ second.WellFormed ∧ second.IsOperand

end Expr

namespace Value

def WellFormed : Value → Prop
  | expr e => e.WellFormed
  | date d => d.WellFormed
  | _ => True

theorem fault?_eq_none_iff {v : Value} :
    v.fault? = none ↔ ∃ e : Expr, v = .expr e ∧ e.IsOperand := by
  cases v with
  | expr e =>
    cases e with
    | number n => simp [fault?, Expr.IsOperand]
    | _ => simp [fault?, Expr.IsOperand]
  | _ => simp [fault?]

theorem validate_eq_ok_iff {v : Value} :
    v.validate = .ok () ↔ ∃ e : Expr, v = .expr e ∧ e.IsOperand := by
  rw [← fault?_eq_none_iff, validate]
  cases v.fault? <;> simp

/-- The gate lets exactly the operands through, and unchanged. -/
theorem operand_eq_ok_iff {v : Value} {e : Expr} :
    v.operand = .ok e ↔ v = .expr e ∧ e.IsOperand := by
  unfold operand
  rw [bind_eq_ok_iff]
  constructor
  · rintro ⟨⟨⟩, hvalid, hexpr⟩
    obtain ⟨e', rfl, hoperand⟩ := validate_eq_ok_iff.mp hvalid
    cases hexpr
    exact ⟨rfl, hoperand⟩
  · rintro ⟨rfl, hoperand⟩
    exact ⟨(), validate_eq_ok_iff.mpr ⟨e, rfl, hoperand⟩, rfl⟩

theorem WellFormed.operand {v : Value} {e : Expr} (hv : v.WellFormed) (h : v.operand = .ok e) :
    e.WellFormed ∧ e.IsOperand := by
  obtain ⟨rfl, hoperand⟩ := operand_eq_ok_iff.mp h
  exact ⟨hv, hoperand⟩

end Value

namespace Expr

variable {e left : Expr} {v w : Value}

theorem wellFormed_of_arithmeticOf {op : ArithmeticOp} (hleft : left.WellFormed)
    (hv : v.WellFormed) (h : arithmeticOf left op v = .ok e) : e.WellFormed := by
  obtain ⟨right, hright, ⟨⟩⟩ := bind_eq_ok_iff.mp h
  exact ⟨hleft, hv.operand hright⟩

theorem wellFormed_of_comparisonOf {op : ComparisonOp} (hleft : left.WellFormed)
    (hv : v.WellFormed) (h : comparisonOf left op v = .ok e) : e.WellFormed := by
  obtain ⟨right, hright, ⟨⟩⟩ := bind_eq_ok_iff.mp h
  exact ⟨hleft, hv.operand hright⟩

theorem wellFormed_of_aggregateOf {op : AggregateOp} (hv : v.WellFormed)
    (h : aggregateOf op v = .ok e) : e.WellFormed := by
  obtain ⟨argument, hargument, ⟨⟩⟩ := bind_eq_ok_iff.mp h
  exact hv.operand hargument

theorem wellFormed_of_unaryOf {f : MathFunction} (hv : v.WellFormed) (h : unaryOf f v = .ok e) :
    e.WellFormed := by
  unfold unaryOf at h
  split at h
  · next harity =>
    obtain ⟨argument, hargument, ⟨⟩⟩ := bind_eq_ok_iff.mp h
    exact ⟨harity, hv.operand hargument⟩
  · cases h

theorem wellFormed_of_binaryOf {f : MathFunction} (hv : v.WellFormed) (hw : w.WellFormed)
    (h : binaryOf f v w = .ok e) : e.WellFormed := by
  unfold binaryOf at h
  split at h
  · next harity =>
    obtain ⟨first, hfirst, hrest⟩ := bind_eq_ok_iff.mp h
    obtain ⟨second, hsecond, ⟨⟩⟩ := bind_eq_ok_iff.mp hrest
    exact ⟨harity, hv.operand hfirst, hw.operand hsecond⟩
  · cases h

end Expr

end CoverageQuery
