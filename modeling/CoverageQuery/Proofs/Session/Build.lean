import CoverageQuery.Proofs.Axis.Parsing
import CoverageQuery.Proofs.Query.WellFormed
import CoverageQuery.Session.Recipe

/-!
# What recipes build

`Build.Yields` states what holds of everything a recipe can build, whatever variables it takes on
the way. From well-formed objects recipes build nothing but well-formed values and axis subsets.
-/

namespace CoverageQuery

namespace Build

variable {α β : Type} {p : α → Prop} {q : β → Prop}

theorem run_bind (b : Build α) (next : α → Build β) (supply : VariableSupply) :
    (b >>= next).run.run supply = match b.run.run supply with
      | (.ok a, supply) => (next a).run.run supply
      | (.error e, supply) => (.error e, supply) := by
  show (ExceptT.bindCont next (b.run.run supply).1).run (b.run.run supply).2 = _
  cases b.run.run supply with
  | mk result left => cases result <;> rfl

/-- What is built, if anything is, satisfies `p`. -/
def Yields (b : Build α) (p : α → Prop) : Prop :=
  ∀ supply a left, b.run.run supply = (.ok a, left) → p a

namespace Yields

theorem pure {a : α} (h : p a) : Yields (pure a) p := by
  rintro supply _ left ⟨⟩
  exact h

theorem throw (e : SessionError) : Yields (throw e : Build α) p := nofun

theorem bind {b : Build α} {next : α → Build β} (hb : b.Yields p)
    (hnext : ∀ a, p a → (next a).Yields q) : (b >>= next).Yields q := by
  intro supply c left h
  rw [run_bind] at h
  split at h
  · next a supply' ha => exact hnext a (hb supply a supply' ha) supply' c left h
  · cases h

/-- Nothing need be known of what the rest does not depend on. -/
theorem bind_any {b : Build α} {next : α → Build β} (hnext : ∀ a, (next a).Yields q) :
    (b >>= next).Yields q :=
  bind (p := fun _ => True) (fun _ _ _ _ => trivial) fun a _ => hnext a

theorem mapM {b : α → Build β} {xs : List α} (h : ∀ x ∈ xs, (b x).Yields q) :
    (xs.mapM b).Yields fun ys => ∀ y ∈ ys, q y := by
  induction xs with
  | nil => exact .pure nofun
  | cons x xs ih =>
    rw [List.forall_mem_cons] at h
    rw [List.mapM_cons]
    refine h.1.bind fun y hy => (ih h.2).bind fun ys hys => .pure ?_
    exact List.forall_mem_cons.mpr ⟨hy, hys⟩

theorem ofQuery {result : Except QueryError α} (h : ∀ a, result = .ok a → p a) :
    (ofQuery result).Yields p := by
  cases result with
  | ok a => exact .pure (h a rfl)
  | error e => exact .throw _

end Yields

theorem yields_coverage (names : List String) : (coverage names).Yields Coverage.WellFormed := by
  intro supply c left h
  have hresult : (Coverage.allocate names supply).1.mapError SessionError.query = .ok c :=
    congrArg Prod.fst h
  cases hallocate : (Coverage.allocate names supply).1 with
  | ok d =>
    rw [hallocate] at hresult
    cases hresult
    exact Coverage.wellFormed_of_allocate hallocate
  | error e =>
    rw [hallocate] at hresult
    cases hresult

theorem yields_expression {v : Value} (h : v.WellFormed) :
    (expression v).Yields Expr.WellFormed := by
  cases v with
  | expr e => exact .pure h
  | _ => exact .throw _

/-- A node that is made of well-formed parts is a well-formed value. -/
theorem yields_node {result : Except QueryError Expr} (h : ∀ e, result = .ok e → e.WellFormed) :
    Yields (do let e ← ofQuery result; Pure.pure (Value.expr e)) Value.WellFormed :=
  .bind (.ofQuery h) fun _ he => .pure he

end Build

/-- What the constructors and the setters leave of an object of each kind. -/
def Object.WellFormed : Object → Prop
  | coverage c => c.WellFormed
  | axis a => a.WellFormed
  | value v => v.WellFormed
  | case c => c.WellFormed
  | switch s => s.WellFormed
  | query q => q.WellFormed

namespace Object.WellFormed

variable {o : Object}

theorem value {v : Value} (ho : o.WellFormed) (h : o.value? = some v) : v.WellFormed := by
  cases o with
  | coverage c | value v =>
    cases h
    exact ho
  | _ => cases h

theorem coverage {c : Coverage} (ho : o.WellFormed) (h : o.coverage? = some c) :
    c.WellFormed := by
  cases o <;> cases h
  exact ho

theorem axis {a : AxisSubset} (ho : o.WellFormed) (h : o.axis? = some a) : a.WellFormed := by
  cases o <;> cases h
  exact ho

theorem case {c : Case} (ho : o.WellFormed) (h : o.case? = some c) : c.WellFormed := by
  cases o <;> cases h
  exact ho

theorem switch {s : Switch} (ho : o.WellFormed) (h : o.switch? = some s) : s.WellFormed := by
  cases o <;> cases h
  exact ho

end Object.WellFormed

/-- Also the objects that later ones hide are well-formed. -/
def Objects.WellFormed (objects : Objects) : Prop := ∀ entry ∈ objects, entry.2.WellFormed

theorem BoundRecipe.wellFormed_of_build {r : BoundRecipe} {b : Bound} (h : r.build = .ok b) :
    b.WellFormed := by
  cases r with
  | number n =>
    cases h
    trivial
  | date year month day =>
    obtain ⟨d, hd, ⟨⟩⟩ := bind_eq_ok_iff.mp h
    exact DateLabel.wellFormed_of_ofParts hd

namespace Objects.WellFormed

variable {objects : Objects}

theorem lookup (h : objects.WellFormed) {name : String} {o : Object}
    (ho : objects.lookup name = some o) : o.WellFormed := by
  obtain ⟨front, back, rfl, -⟩ := List.lookup_eq_some_iff.mp ho
  exact h (name, o) (by simp)

/-- What a view passes on from an object is found with it. -/
theorem yields_find {α : Type} {p : α → Prop} (h : objects.WellFormed) {view : Object → Option α}
    (hview : ∀ o a, o.WellFormed → view o = some a → p a) (name : String) :
    (Build.find view objects name).Yields p := by
  unfold Build.find
  split
  · next a ha =>
    obtain ⟨o, ho, hoa⟩ := Option.bind_eq_some_iff.mp ha
    exact .pure (hview o a (h.lookup ho) hoa)
  · exact .throw _

theorem yields_axis (h : objects.WellFormed) (r : AxisRecipe) :
    (r.build objects).Yields AxisSubset.WellFormed := by
  cases r with
  | point name b =>
    refine .ofQuery fun a ha => ?_
    obtain ⟨bound, hbound, hrange⟩ := bind_eq_ok_iff.mp ha
    apply AxisSubset.wellFormed_of_ofRange _ hrange
    rw [AxisRange.forall_bounds_point]
    exact BoundRecipe.wellFormed_of_build hbound
  | interval name low high =>
    refine .ofQuery fun a ha => ?_
    obtain ⟨lower, hlower, hrest⟩ := bind_eq_ok_iff.mp ha
    obtain ⟨upper, hupper, hrange⟩ := bind_eq_ok_iff.mp hrest
    apply AxisSubset.wellFormed_of_ofRange _ hrange
    rw [AxisRange.forall_bounds_interval]
    exact ⟨BoundRecipe.wellFormed_of_build hlower, BoundRecipe.wellFormed_of_build hupper⟩
  | text t => exact .ofQuery fun a ha => (AxisSubset.readable_of_parse ha).1
  | object name => exact h.yields_find (fun _ _ => Object.WellFormed.axis) name

/-- The induction is on the recipe: its parts yield well-formed values, and what passes the gate on
the way into a node is an operand. -/
theorem yields_value (h : objects.WellFormed) (r : Recipe) :
    (r.build objects).Yields Value.WellFormed := by
  induction r with
  | number n => exact .pure trivial
  | text s => exact .pure trivial
  | bool b => exact .pure trivial
  | date year month day =>
    exact .bind (.ofQuery fun d hd => DateLabel.wellFormed_of_ofParts hd) fun d hd => .pure hd
  | color red green blue => exact .bind_any fun c => .pure trivial
  | object name => exact h.yields_find (fun _ _ => Object.WellFormed.value) name
  | coverage names subset =>
    cases subset with
    | none => exact (Build.yields_coverage names).bind fun c hc => .pure hc
    | some axes =>
      refine (Build.yields_coverage names).bind fun c hc => ?_
      refine .bind (.mapM fun a _ => h.yields_axis a) fun axes haxes => ?_
      exact .bind (.ofQuery fun d hd => hc.setSubset haxes hd) fun d hd => .pure hd
  | arithmetic left op right ihl ihr =>
    refine ihl.bind fun v hv => ihr.bind fun w hw => ?_
    refine (Build.yields_expression hv).bind fun left hleft => Build.yields_node fun e he => ?_
    exact Expr.wellFormed_of_arithmeticOf hleft hw he
  | comparison left op right ihl ihr =>
    refine ihl.bind fun v hv => ihr.bind fun w hw => ?_
    refine (Build.yields_expression hv).bind fun left hleft => Build.yields_node fun e he => ?_
    exact Expr.wellFormed_of_comparisonOf hleft hw he
  | aggregate op argument ih =>
    refine ih.bind fun v hv => Build.yields_node fun e he => ?_
    exact Expr.wellFormed_of_aggregateOf hv he
  | unary f argument ih =>
    refine ih.bind fun v hv => Build.yields_node fun e he => ?_
    exact Expr.wellFormed_of_unaryOf hv he
  | binary f first second iha ihb =>
    refine iha.bind fun v hv => ihb.bind fun w hw => Build.yields_node fun e he => ?_
    exact Expr.wellFormed_of_binaryOf hv hw he

end Objects.WellFormed

end CoverageQuery
