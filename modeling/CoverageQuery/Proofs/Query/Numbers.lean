import CoverageQuery.Proofs.Query.WellFormed

/-!
# The numbers of a text

The numbers that stand in the text of an object, from left to right. All of them are finite but for
those that a tree can hold as the left operand of a binary node, which no constructor checks.
-/

namespace CoverageQuery

namespace Numeral

/-- A digit, a sign, a point or an exponent mark. -/
def Mark (c : Char) : Prop := c.isDigit = true ∨ c ∈ ['-', '+', '.', 'e', 'E']

instance : DecidablePred Mark := fun _ => inferInstanceAs (Decidable (_ ∨ _))

theorem Exponent.WellFormed.forall_mark {e : Exponent} (h : e.WellFormed) :
    ∀ c ∈ e.chars, Mark c := by
  obtain ⟨hmark, hsign, hdigits⟩ := h
  rw [Exponent.chars, List.cons_append, List.forall_mem_cons, List.forall_mem_append]
  refine ⟨?_, ?_, fun c hc => .inl (hdigits.2 c hc)⟩
  · rcases hmark with hlower | hupper
    · rw [hlower]
      decide
    · rw [hupper]
      decide
  · rcases hsign with hnone | hplus | hminus
    · rw [hnone]
      exact List.forall_mem_nil _
    · rw [hplus]
      decide
    · rw [hminus]
      decide

theorem WellFormed.forall_mark {n : Numeral} (h : n.WellFormed) : ∀ c ∈ n.chars, Mark c := by
  rw [chars_eq]
  simp only [List.forall_mem_append]
  refine ⟨?_, fun c hc => .inl (h.whole.2 c hc), ?_, ?_⟩
  · cases n.negative <;> decide
  · cases hfraction : n.fraction with
    | none => exact List.forall_mem_nil _
    | some digits =>
      rw [fractionChars, List.forall_mem_cons]
      exact ⟨by decide, fun c hc => .inl ((h.fraction digits hfraction).2 c hc)⟩
  · cases hexponent : n.exponent with
    | none => exact List.forall_mem_nil _
    | some e => exact (h.exponent e hexponent).forall_mark

end Numeral

/-- The texts of the other numbers have a letter that no numeral has. -/
theorem Number.isFinite_iff_forall_mark {n : Number} :
    n.IsFinite ↔ ∀ c ∈ n.chars, Numeral.Mark c := by
  constructor
  · intro hfinite
    obtain ⟨numeral, hnumeral, hchars, -⟩ := exists_numeral hfinite
    rw [← hchars]
    exact hnumeral.forall_mark
  · intro hmarks
    cases n with
    | int value => trivial
    | float x =>
      cases x with
      | finite negative rank => trivial
      | nan => exact absurd (hmarks 'N' (by decide)) (by decide)
      | infinite negative =>
        have hletter : 'n' ∈ (Number.float (.infinite negative)).chars := by
          cases negative <;> decide
        exact absurd (hmarks 'n' hletter) (by decide)

def Bound.numbers : Bound → List Number
  | number n => [n]
  | date _ => []

def AxisSubset.numbers (a : AxisSubset) : List Number := a.range.bounds.flatMap Bound.numbers

def Coverage.numbers (c : Coverage) : List Number := (c.subset.getD []).flatMap AxisSubset.numbers

namespace Expr

def numbers : Expr → List Number
  | coverage c => c.numbers
  | arithmetic left _ right => left.numbers ++ right.numbers
  | comparison left _ right => left.numbers ++ right.numbers
  | number n => [n]
  | aggregate _ argument => argument.numbers
  | unary _ argument => argument.numbers
  | binary _ first second => first.numbers ++ second.numbers

/-- The number that the expression is, if it is a bare one. -/
def bare : Expr → List Number
  | number n => [n]
  | _ => []

/-- The bare numbers to the left of an operator. -/
def leftNumbers : Expr → List Number
  | arithmetic left _ right => left.bare ++ left.leftNumbers ++ right.leftNumbers
  | comparison left _ right => left.bare ++ left.leftNumbers ++ right.leftNumbers
  | aggregate _ argument => argument.leftNumbers
  | unary _ argument => argument.leftNumbers
  | binary _ first second => first.leftNumbers ++ second.leftNumbers
  | coverage _ | number _ => []

end Expr

/-- The trees of the result, at most one. -/
def CaseResult.trees : CaseResult → List Expr
  | color _ => []
  | expr e => [e]

def Case.trees (c : Case) : List Expr := c.condition.toExpr :: c.result.trees

def Switch.trees (s : Switch) : List Expr := s.cases.flatMap Case.trees ++ s.otherwise.trees

def Pair.numbers (p : Pair) : List Number := [p.x, p.y]

namespace Payload

def trees : Payload → List Expr
  | expr e => [e]
  | switch s => s.trees
  | unset | grid _ | clip _ => []

/-- The corners of a grid or the vertices of a polygon. -/
def points : Payload → List Pair
  | grid g => [g.x, g.y]
  | clip c => c.vertices
  | unset | expr _ | switch _ => []

def numbers (p : Payload) : List Number :=
  p.trees.flatMap Expr.numbers ++ p.points.flatMap Pair.numbers

end Payload

theorem AxisSubset.WellFormed.isFinite {a : AxisSubset} (h : a.WellFormed) :
    ∀ n ∈ a.numbers, n.IsFinite := by
  rw [numbers, List.forall_mem_flatMap]
  intro b hb
  have hfinite := h.finite b hb
  cases b with
  | number n => exact List.forall_mem_singleton.mpr hfinite
  | date d => exact nofun

theorem Coverage.WellFormed.isFinite {c : Coverage} (h : c.WellFormed) :
    ∀ n ∈ c.numbers, n.IsFinite := by
  rw [numbers, List.forall_mem_flatMap]
  intro a ha
  cases hsubset : c.subset with
  | none =>
    rw [hsubset] at ha
    cases ha
  | some axes =>
    rw [hsubset] at ha
    exact ((h.subset axes hsubset).2 a ha).isFinite

namespace Expr

theorem forall_bare {e : Expr} : (∀ n ∈ e.bare, n.IsFinite) ↔ e.IsOperand := by
  cases e with
  | number n => exact List.forall_mem_singleton
  | _ => exact ⟨fun _ => trivial, fun _ => nofun⟩

/-- The induction is on the tree. Behind every operand but a left one stands a check, so a bare
number there is finite. -/
theorem WellFormed.forall_isFinite_iff {e : Expr} (h : e.WellFormed) :
    (∀ n ∈ e.numbers, n.IsFinite) ↔ e.IsOperand ∧ ∀ n ∈ e.leftNumbers, n.IsFinite := by
  induction e with
  | coverage c => exact ⟨fun _ => ⟨trivial, nofun⟩, fun _ => Coverage.WellFormed.isFinite h⟩
  | number n =>
    rw [numbers, List.forall_mem_singleton]
    exact ⟨fun hfinite => ⟨hfinite, nofun⟩, fun hoperand => hoperand.1⟩
  | arithmetic left op right ihl ihr | comparison left op right ihl ihr =>
    obtain ⟨hleft, hright, hoperand⟩ := h
    rw [numbers, leftNumbers, List.forall_mem_append, List.forall_mem_append,
      List.forall_mem_append, ihl hleft, ihr hright, forall_bare]
    constructor
    · rintro ⟨hl, -, hr⟩
      exact ⟨trivial, hl, hr⟩
    · rintro ⟨-, hl, hr⟩
      exact ⟨hl, hoperand, hr⟩
  | aggregate op argument ih =>
    obtain ⟨hargument, hoperand⟩ := h
    rw [numbers, leftNumbers, ih hargument]
    exact ⟨fun hfinite => ⟨trivial, hfinite.2⟩, fun hfinite => ⟨hoperand, hfinite.2⟩⟩
  | unary f argument ih =>
    obtain ⟨-, hargument, hoperand⟩ := h
    rw [numbers, leftNumbers, ih hargument]
    exact ⟨fun hfinite => ⟨trivial, hfinite.2⟩, fun hfinite => ⟨hoperand, hfinite.2⟩⟩
  | binary f first second iha ihb =>
    obtain ⟨-, ⟨hfirst, hfirstOperand⟩, hsecond, hsecondOperand⟩ := h
    rw [numbers, leftNumbers, List.forall_mem_append, List.forall_mem_append, iha hfirst,
      ihb hsecond]
    constructor
    · rintro ⟨⟨-, ha⟩, -, hb⟩
      exact ⟨trivial, ha, hb⟩
    · rintro ⟨-, ha, hb⟩
      exact ⟨⟨hfirstOperand, ha⟩, hsecondOperand, hb⟩

end Expr

end CoverageQuery
