import CoverageQuery.Expr.Basic
import CoverageQuery.Proofs.Axis.Spelling
import CoverageQuery.Proofs.Operator

/-!
# Unique readability of expressions

The text of an expression determines its tree. Nodes are told apart by their first character and
then by a name or a symbol; behind every operand stands a character that no operand goes on with.
-/

namespace CoverageQuery

open Text Axis

/-- A dollar sign, an `i` and digits. -/
def VariableName (var : String) : Prop :=
  ∃ digits, (∀ c ∈ digits, c.isDigit = true) ∧ var.toList = '$' :: 'i' :: digits

/-- Up to something other than a digit a variable can be read back. -/
theorem VariableName.recovers {v w : String} (hv : VariableName v) (hw : VariableName w) :
    Recovers (·.isDigit = false) v.toList w.toList (v = w) := by
  obtain ⟨m, hm, hvar⟩ := hv
  obtain ⟨n, hn, hwar⟩ := hw
  intro s t hs ht heq
  rw [hvar, hwar] at heq
  simp only [List.cons_append, List.cons.injEq, true_and] at heq
  obtain ⟨rfl, hst⟩ := recovers_run hm hn s t hs ht heq
  exact ⟨String.toList_inj.mp (hvar.trans hwar.symm), hst⟩

namespace Coverage

/-- The coverage as far as an expression shows it: without its names. -/
def written (c : Coverage) : Coverage :=
  { c with names := [], subset := c.subset.map (·.map AxisSubset.written) }

/-- The variable and the axes can be read back. -/
structure Legible (c : Coverage) : Prop where
  var : VariableName c.var
  subset : ∀ axes, c.subset = some axes → ∀ a ∈ axes, a.Legible

@[simp] theorem chars_written (c : Coverage) : c.written.chars = c.chars := by
  obtain ⟨names, var, subset⟩ := c
  cases subset with
  | none => rfl
  | some axes => simp [written, chars, subsetChars, Function.comp_def]

theorem Legible.begins {c : Coverage} (h : c.Legible) : Begins (· = '$') c.chars := by
  obtain ⟨digits, -, hvar⟩ := h.var
  rw [chars, hvar]
  exact ⟨'$', _, rfl, rfl⟩

theorem recovers_axes {as bs : List AxisSubset} (has : ∀ a ∈ as, a.Legible)
    (hbs : ∀ b ∈ bs, b.Legible) :
    Recovers (· = ']') (joined [',', ' '] (as.map AxisSubset.chars))
      (joined [',', ' '] (bs.map AxisSubset.chars))
      (as.map AxisSubset.written = bs.map AxisSubset.written) := by
  have hjoined : Recovers (fun c => isGap c = false ∧ c ≠ ',' ∧ ¬isWordChar c = true)
      (joined [',', ' '] (as.map AxisSubset.chars)) (joined [',', ' '] (bs.map AxisSubset.chars))
      (as.map AxisSubset.written = bs.map AxisSubset.written) := by
    apply recovers_joined
    · decide
    · exact fun a ha => (has a ha).begins
    · exact fun b hb => (hbs b hb).begins
    · intro a ha b hb
      exact AxisSubset.recovers_chars (has a ha) (hbs b hb)
  apply hjoined.restrict
  rintro c rfl
  decide

theorem recovers_chars {follow : Char → Prop}
    (hfollow : ∀ c, follow c → c.isDigit = false ∧ c ≠ '[') {c d : Coverage} (hc : c.Legible)
    (hd : d.Legible) :
    Recovers follow c.chars d.chars (c.written = d.written) := by
  obtain ⟨names, var, subset⟩ := c
  obtain ⟨names', var', subset'⟩ := d
  intro s t hs ht heq
  have hopens : ∀ (axes : Option (List AxisSubset)) (text : List Char), Opens follow text →
      Opens (·.isDigit = false) (subsetChars axes ++ text) := by
    intro axes text htext
    cases axes with
    | none => exact htext.imp fun c hc => (hfollow c hc).1
    | some axes => exact (opens_cons _ _ _).mpr (by decide)
  simp only [chars, List.append_assoc] at heq
  obtain ⟨hvar, hrest⟩ := hc.var.recovers hd.var _ _ (hopens _ s hs) (hopens _ t ht) heq
  have hnone : ∀ text, Opens follow text → Opens (· ≠ '[') text := fun text htext =>
    htext.imp fun c hc => (hfollow c hc).2
  cases subset with
  | none =>
    cases subset' with
    | none => exact ⟨by simp_all [written], hrest⟩
    | some bs =>
      have hopen := hnone s hs
      rw [show s = '[' :: _ from hrest, opens_cons] at hopen
      exact absurd rfl hopen
  | some as =>
    cases subset' with
    | none =>
      have hopen := hnone t ht
      rw [show t = '[' :: _ from hrest.symm, opens_cons] at hopen
      exact absurd rfl hopen
    | some bs =>
      simp only [subsetChars, List.cons_append, List.append_assoc, List.cons.injEq,
        true_and] at hrest
      obtain ⟨haxes, hst⟩ := (recovers_axes (hc.subset as rfl) (hd.subset bs rfl)).before rfl hrest
      refine ⟨?_, hst⟩
      simp only at hvar
      simp [written, hvar, haxes]

end Coverage

namespace Expr

/-- The tree as far as it is written. -/
def written : Expr → Expr
  | coverage c => coverage c.written
  | arithmetic left op right => arithmetic left.written op right.written
  | comparison left op right => comparison left.written op right.written
  | number n => number n
  | aggregate op argument => aggregate op argument.written
  | unary f argument => unary f argument.written
  | binary f first second => binary f first.written second.written

/-- The variables, the axis names and the numbers of the tree can be read back. -/
def Legible : Expr → Prop
  | coverage c => c.Legible
  | arithmetic left _ right => left.Legible ∧ right.Legible
  | comparison left _ right => left.Legible ∧ right.Legible
  | number n => n.IsFinite
  | aggregate _ argument => argument.Legible
  | unary _ argument => argument.Legible
  | binary _ first second => first.Legible ∧ second.Legible

@[simp] theorem chars_written (e : Expr) : e.written.chars = e.chars := by
  induction e with
  | coverage c => exact c.chars_written
  | arithmetic left op right ihl ihr => rw [written, chars, chars, ihl, ihr]
  | comparison left op right ihl ihr => rw [written, chars, chars, ihl, ihr]
  | number n => rfl
  | aggregate op argument ih => rw [written, chars, chars, ih]
  | unary f argument ih => rw [written, chars, chars, ih]
  | binary f first second iha ihb => rw [written, chars, chars, iha, ihb]

/-- What may stand behind an expression: a space, a comma, a closing parenthesis or the end of a
line. -/
def Boundary (c : Char) : Prop := c = ' ' ∨ c = ',' ∨ c = ')' ∨ c = '\n'

instance : DecidablePred Boundary := fun _ => inferInstanceAs (Decidable (_ ∨ _))

theorem Boundary.stops {c : Char} (h : Boundary c) : Numeral.Stops c := by
  rcases h with rfl | rfl | rfl | rfl <;> decide

theorem Boundary.closes {c : Char} (h : Boundary c) : c.isDigit = false ∧ c ≠ '[' := by
  rcases h with rfl | rfl | rfl | rfl <;> decide

/-- What the first character of an expression tells about it. -/
inductive Shape where
  | reference | operation | application | literal | other
deriving DecidableEq

def shape : Expr → Shape
  | coverage _ => .reference
  | arithmetic _ _ _ | comparison _ _ _ => .operation
  | aggregate _ _ | unary _ _ | binary _ _ _ => .application
  | number _ => .literal

def Shape.ofFirst (c : Char) : Shape :=
  if c = '$' then reference
  else if c = '(' then operation
  else if c.isLower then application
  else if Numeral.Starts c then literal
  else other

theorem Shape.ofFirst_lower {c : Char} (h : c.isLower = true) : ofFirst c = application := by
  have hdollar : c ≠ '$' := by
    rintro rfl
    exact absurd h (by decide)
  have hparen : c ≠ '(' := by
    rintro rfl
    exact absurd h (by decide)
  rw [ofFirst, if_neg hdollar, if_neg hparen, if_pos h]

theorem Shape.ofFirst_starts {c : Char} (h : Numeral.Starts c) : ofFirst c = literal := by
  rcases h with rfl | hdigit
  · decide
  · have hdollar : c ≠ '$' := by
      rintro rfl
      exact absurd hdigit (by decide)
    have hparen : c ≠ '(' := by
      rintro rfl
      exact absurd hdigit (by decide)
    have hlower : ¬c.isLower = true := by
      intro hlower
      simp only [Char.isLower, Char.isDigit, Bool.and_eq_true, decide_eq_true_eq] at hlower hdigit
      exact absurd (UInt32.le_trans hlower.1 hdigit.2) (by decide)
    rw [ofFirst, if_neg hdollar, if_neg hparen, if_neg hlower, if_pos (.inr hdigit)]

theorem shape_ne_other (e : Expr) : e.shape ≠ .other := by
  cases e <;> nofun

theorem begins_aggregateName (op : AggregateOp) : Begins (·.isLower = true) op.name.toList := by
  cases op <;> exact ⟨_, _, rfl, by decide⟩

theorem begins_functionName (f : MathFunction) : Begins (·.isLower = true) f.name.toList := by
  cases f <;> exact ⟨_, _, rfl, by decide⟩

theorem Legible.begins {e : Expr} (h : e.Legible) :
    Begins (Shape.ofFirst · = e.shape) e.chars := by
  have happlied : ∀ name : String, Begins (·.isLower = true) name.toList → ∀ arguments,
      Begins (Shape.ofFirst · = .application) (applied name arguments) := by
    intro name hname arguments
    rw [applied, List.append_assoc]
    exact (hname.append _).imp fun _ => Shape.ofFirst_lower
  cases e with
  | coverage c =>
    apply (Coverage.Legible.begins h).imp
    rintro _ rfl
    rfl
  | arithmetic left op right => exact ⟨'(', _, rfl, rfl⟩
  | comparison left op right => exact ⟨'(', _, rfl, rfl⟩
  | number n => exact (Number.begins_chars h).imp fun _ => Shape.ofFirst_starts
  | aggregate op argument => exact happlied _ (begins_aggregateName op) _
  | unary f argument => exact happlied _ (begins_functionName f) _
  | binary f first second => exact happlied _ (begins_functionName f) _

theorem recovers_of_shape_ne {follow : Char → Prop} {same : Prop} {a b : Expr} (ha : a.Legible)
    (hb : b.Legible) (h : a.shape ≠ b.shape) : Recovers follow a.chars b.chars same := by
  apply Recovers.of_begins ha.begins hb.begins
  intro c hca hcb
  exact h (hca.symm.trans hcb)

/-- The operands on both sides of a symbol can be read back, and the symbol ends at a space. -/
theorem recovers_operation {follow : Char → Prop} {symbol symbol' : String}
    {left left' right right' : List Char} {sameLeft sameRight : Prop}
    (hsymbol : ∀ c ∈ symbol.toList, (c != ' ') = true)
    (hsymbol' : ∀ c ∈ symbol'.toList, (c != ' ') = true)
    (hleft : Recovers Boundary left left' sameLeft)
    (hright : Recovers Boundary right right' sameRight) :
    Recovers follow (operationChars left symbol right) (operationChars left' symbol' right')
      (sameLeft ∧ symbol = symbol' ∧ sameRight) := by
  intro s t _ _ heq
  simp only [operationChars, List.cons_append, List.append_assoc, List.cons.injEq,
    true_and] at heq
  obtain ⟨hl, hoperator⟩ := hleft.before (by decide) heq
  obtain ⟨hop, hoperand⟩ := (recovers_run hsymbol hsymbol').before (by decide) hoperator
  obtain ⟨hr, hclose⟩ := hright.before (by decide) hoperand
  exact ⟨⟨hl, String.toList_inj.mp hop, hr⟩, hclose⟩

/-- Letters and digits, as the names of all functions are. -/
def NameRun (name : String) : Prop := ∀ c ∈ name.toList, c.isAlphanum = true

theorem nameRun_aggregate (op : AggregateOp) : NameRun op.name := by
  unfold NameRun
  cases op <;> decide

theorem nameRun_function (f : MathFunction) : NameRun f.name := by
  unfold NameRun
  cases f <;> decide

/-- A name ends at the opening parenthesis. -/
theorem eq_of_applied_append {name name' : String} (hname : NameRun name)
    (hname' : NameRun name') {arguments arguments' s t : List Char}
    (heq : applied name arguments ++ s = applied name' arguments' ++ t) :
    name = name' ∧ arguments ++ ')' :: s = arguments' ++ ')' :: t := by
  simp only [applied, List.cons_append, List.append_assoc, List.nil_append] at heq
  obtain ⟨hsame, hopen⟩ := (recovers_run hname hname').before (by decide) heq
  exact ⟨String.toList_inj.mp hsame, hopen⟩

theorem recovers_of_name_ne {follow : Char → Prop} {name name' : String} (hname : NameRun name)
    (hname' : NameRun name') (hne : name ≠ name') {arguments arguments' : List Char}
    {same : Prop} : Recovers follow (applied name arguments) (applied name' arguments') same := by
  intro s t _ _ heq
  exact absurd (eq_of_applied_append hname hname' heq).1 hne

theorem recovers_applied {follow : Char → Prop} {name name' : String} (hname : NameRun name)
    (hname' : NameRun name') {arguments arguments' : List Char} {same : Prop}
    (harguments : Recovers (· = ')') arguments arguments' same) :
    Recovers follow (applied name arguments) (applied name' arguments') (name = name' ∧ same) := by
  intro s t _ _ heq
  obtain ⟨hsame, hrest⟩ := eq_of_applied_append hname hname' heq
  obtain ⟨hargs, hclose⟩ := harguments.before rfl hrest
  exact ⟨⟨hsame, hargs⟩, hclose⟩

theorem boundary_of_close {c : Char} (h : c = ')') : Boundary c := .inr (.inr (.inl h))

theorem recovers_pair {first first' second second' : List Char} {same same' : Prop}
    (hfirst : Recovers Boundary first first' same)
    (hsecond : Recovers Boundary second second' same') :
    Recovers (· = ')') (first ++ ',' :: ' ' :: second) (first' ++ ',' :: ' ' :: second')
      (same ∧ same') := by
  intro s t hs ht heq
  simp only [List.append_assoc, List.cons_append] at heq
  obtain ⟨hf, hcomma⟩ := hfirst.before (by decide) heq
  obtain ⟨hg, hst⟩ := hsecond s t (hs.imp fun _ => boundary_of_close)
    (ht.imp fun _ => boundary_of_close) (List.cons.inj hcomma).2
  exact ⟨⟨hf, hg⟩, hst⟩

/-- One argument is never two. -/
theorem recovers_single_pair {single first second : List Char} {same other : Prop}
    (h : Recovers Boundary single first same) :
    Recovers (· = ')') single (first ++ ',' :: ' ' :: second) other := by
  intro s t hs _ heq
  simp only [List.append_assoc, List.cons_append] at heq
  obtain ⟨-, rfl⟩ := h _ _ (hs.imp fun _ => boundary_of_close)
    ((opens_cons _ _ _).mpr (by decide)) heq
  rw [opens_cons] at hs
  exact absurd hs (by decide)

/-- Two expressions with one text in front of boundaries are the same as far as they are written.
The induction is on the left tree; the shapes leave only nodes of one shape to compare. -/
theorem recovers_chars {a b : Expr} (ha : a.Legible) (hb : b.Legible) :
    Recovers Boundary a.chars b.chars (a.written = b.written) := by
  induction a generalizing b with
  | coverage c =>
    cases b with
    | coverage d =>
      exact (Coverage.recovers_chars (fun _ => Boundary.closes) ha hb).imp (congrArg coverage)
    | _ => exact recovers_of_shape_ne ha hb nofun
  | number m =>
    cases b with
    | number n =>
      exact ((Number.recovers_chars ha hb).restrict fun _ => Boundary.stops).imp (congrArg number)
    | _ => exact recovers_of_shape_ne ha hb nofun
  | arithmetic left op right ihl ihr =>
    cases b with
    | arithmetic left' op' right' =>
      apply (recovers_operation op.symbol_unspaced op'.symbol_unspaced (ihl ha.1 hb.1)
        (ihr ha.2 hb.2)).imp
      rintro ⟨hl, hop, hr⟩
      rw [written, written, hl, hr, eq_of_found ArithmeticOp.ofSymbol?_symbol hop]
    | comparison left' op' right' =>
      apply (recovers_operation op.symbol_unspaced op'.symbol_unspaced (ihl ha.1 hb.1)
        (ihr ha.2 hb.2)).imp
      rintro ⟨-, hop, -⟩
      exact absurd hop (op.symbol_ne_comparison op')
    | _ => exact recovers_of_shape_ne ha hb nofun
  | comparison left op right ihl ihr =>
    cases b with
    | arithmetic left' op' right' =>
      apply (recovers_operation op.symbol_unspaced op'.symbol_unspaced (ihl ha.1 hb.1)
        (ihr ha.2 hb.2)).imp
      rintro ⟨-, hop, -⟩
      exact absurd hop.symm (op'.symbol_ne_comparison op)
    | comparison left' op' right' =>
      apply (recovers_operation op.symbol_unspaced op'.symbol_unspaced (ihl ha.1 hb.1)
        (ihr ha.2 hb.2)).imp
      rintro ⟨hl, hop, hr⟩
      rw [written, written, hl, hr, eq_of_found ComparisonOp.ofSymbol?_symbol hop]
    | _ => exact recovers_of_shape_ne ha hb nofun
  | aggregate op argument ih =>
    cases b with
    | aggregate op' argument' =>
      apply (recovers_applied (nameRun_aggregate op) (nameRun_aggregate op')
        ((ih (b := argument') ha hb).restrict fun _ => boundary_of_close)).imp
      rintro ⟨hop, hargument⟩
      rw [written, written, hargument, eq_of_found AggregateOp.ofName?_name hop]
    | unary f argument' =>
      exact recovers_of_name_ne (nameRun_aggregate op) (nameRun_function f)
        (f.name_ne_aggregate op).symm
    | binary f first second =>
      exact recovers_of_name_ne (nameRun_aggregate op) (nameRun_function f)
        (f.name_ne_aggregate op).symm
    | _ => exact recovers_of_shape_ne ha hb nofun
  | unary f argument ih =>
    cases b with
    | aggregate op argument' =>
      exact recovers_of_name_ne (nameRun_function f) (nameRun_aggregate op)
        (f.name_ne_aggregate op)
    | unary g argument' =>
      apply (recovers_applied (nameRun_function f) (nameRun_function g)
        ((ih (b := argument') ha hb).restrict fun _ => boundary_of_close)).imp
      rintro ⟨hname, hargument⟩
      rw [written, written, hargument, eq_of_found MathFunction.ofName?_name hname]
    | binary g first second =>
      exact (recovers_applied (nameRun_function f) (nameRun_function g)
        (recovers_single_pair (ih ha hb.1))).imp And.right
    | _ => exact recovers_of_shape_ne ha hb nofun
  | binary f first second iha ihb =>
    cases b with
    | aggregate op argument =>
      exact recovers_of_name_ne (nameRun_function f) (nameRun_aggregate op)
        (f.name_ne_aggregate op)
    | unary g argument =>
      have hsingle : Recovers (· = ')') argument.chars (first.chars ++ ',' :: ' ' :: second.chars)
          ((binary f first second).written = (unary g argument).written) :=
        recovers_single_pair (iha (b := argument) ha.1 hb).symm
      exact (recovers_applied (nameRun_function f) (nameRun_function g) hsingle.symm).imp And.right
    | binary g first' second' =>
      apply (recovers_applied (nameRun_function f) (nameRun_function g)
        (recovers_pair (iha ha.1 hb.1) (ihb ha.2 hb.2))).imp
      rintro ⟨hname, hfirst, hsecond⟩
      rw [written, written, hfirst, hsecond, eq_of_found MathFunction.ofName?_name hname]
    | _ => exact recovers_of_shape_ne ha hb nofun

/-- What follows a rendered expression may begin so, or be nothing. -/
def Detached (text : String) : Prop := Opens Boundary text.toList

/-- Unique readability: the text in front of a boundary and the tree, as far as it is written,
determine one another. -/
theorem render_append_eq_iff {a b : Expr} (ha : a.Legible) (hb : b.Legible) {s t : String}
    (hs : Detached s) (ht : Detached t) :
    a.render ++ s = b.render ++ t ↔ a.written = b.written ∧ s = t := by
  constructor
  · intro h
    have hchars := congrArg String.toList h
    rw [String.toList_append, String.toList_append, render, render, String.toList_ofList,
      String.toList_ofList] at hchars
    obtain ⟨hwritten, hst⟩ := recovers_chars ha hb _ _ hs ht hchars
    exact ⟨hwritten, String.toList_inj.mp hst⟩
  · rintro ⟨hwritten, rfl⟩
    rw [render, render, ← a.chars_written, ← b.chars_written, hwritten]

/-- The names of a coverage are not part of an expression. -/
theorem render_append_eq_iff_names :
    (aggregate .avg (coverage ⟨["A"], "$i12", none⟩)).render ++ ", 1)" =
      (aggregate .avg (coverage ⟨["B", "C"], "$i12", none⟩)).render ++ ", 1)" := by
  have hvar : VariableName "$i12" := ⟨['1', '2'], by decide, by decide⟩
  have hlegible : ∀ names, (aggregate .avg (coverage ⟨names, "$i12", none⟩)).Legible :=
    fun _ => ⟨hvar, nofun⟩
  have hdetached : Detached ", 1)" := by simp [Detached, Boundary]
  exact (render_append_eq_iff (hlegible _) (hlegible _) hdetached hdetached).mpr ⟨rfl, rfl⟩

end Expr

end CoverageQuery
