import CoverageQuery.Proofs.Query.Numbers
import CoverageQuery.Proofs.Query.Readability
import CoverageQuery.Proofs.Text.Alike

/-!
# Texts of equal trees

What is equal is written alike: its texts are the same but for the signs of zeros, since equality
of trees compares numbers by value.
-/

namespace CoverageQuery

open Text

theorem Bound.alike {a b : Bound} (h : a.sameValue b = true) :
    Alike a.chars b.chars a.numbers b.numbers := by
  unfold sameValue at h
  split at h
  · exact .number h
  · next c d =>
    obtain rfl := eq_of_beq h
    exact .literal c.chars
  · cases h

theorem AxisRange.alike {r s : AxisRange} (h : r.sameValue s = true) :
    Alike r.chars s.chars (r.bounds.flatMap Bound.numbers) (s.bounds.flatMap Bound.numbers) := by
  unfold sameValue at h
  split at h
  · next a b =>
    simp only [bounds, List.flatMap_singleton]
    exact Bound.alike h
  · next a b c d =>
    rw [Bool.and_eq_true] at h
    simp only [bounds, List.flatMap_cons, List.flatMap_nil, List.append_nil]
    exact (Bound.alike h.1).append ((Bound.alike h.2).after [':'])
  · cases h

theorem AxisSubset.alike {a b : AxisSubset} (h : a.sameValue b = true) :
    Alike a.chars b.chars a.numbers b.numbers := by
  rw [sameValue, Bool.and_eq_true, beq_iff_eq] at h
  obtain ⟨hname, hrange⟩ := h
  unfold chars
  rw [hname]
  exact (((AxisRange.alike hrange).after ['(']).after b.name.toList).before [')']

namespace Coverage

theorem alike_subset {as bs : Option (List AxisSubset)} (h : sameSubset as bs = true) :
    Alike (subsetChars as) (subsetChars bs) ((as.getD []).flatMap AxisSubset.numbers)
      ((bs.getD []).flatMap AxisSubset.numbers) := by
  unfold sameSubset at h
  split at h
  · exact .literal []
  · next as bs =>
    have hsame := forall₂_of_same sameAxes (fun _ _ => rfl) (fun _ _ => rfl) (fun _ _ _ _ => rfl) h
    have haxes := Alike.joined [',', ' '] (hsame.imp fun a b hab => AxisSubset.alike hab)
    exact (haxes.after ['[']).before [']']
  · cases h

theorem alike {c d : Coverage} (h : c.sameValue d = true) :
    Alike c.chars d.chars c.numbers d.numbers := by
  rw [sameValue, Bool.and_eq_true, Bool.and_eq_true, beq_iff_eq, beq_iff_eq] at h
  obtain ⟨⟨-, hvar⟩, hsubset⟩ := h
  unfold chars numbers
  rw [hvar]
  exact (alike_subset hsubset).after d.var.toList

end Coverage

namespace Expr

theorem alike_operation {l l' r r' : List Char} {ms ms' ns ns' : List Number} (symbol : String)
    (hleft : Alike l l' ms ms') (hright : Alike r r' ns ns') :
    Alike (operationChars l symbol r) (operationChars l' symbol r') (ms ++ ns) (ms' ++ ns') := by
  have hback := ((hright.after [' ']).after symbol.toList).after [' ']
  have hall := ((hleft.append hback).after ['(']).before [')']
  simpa [operationChars] using hall

theorem alike_applied {x y : List Char} {ms ns : List Number} (name : String)
    (h : Alike x y ms ns) : Alike (applied name x) (applied name y) ms ns := by
  have hall := ((h.after ['(']).after name.toList).before [')']
  simpa [applied] using hall

/-- The induction is on the first tree; the second has a node of the same kind at every place. -/
theorem alike {d e : Expr} (h : d.sameValue e = true) :
    Alike d.chars e.chars d.numbers e.numbers := by
  induction d generalizing e with
  | coverage c =>
    cases e with
    | coverage c' => exact Coverage.alike h
    | _ => cases h
  | number n =>
    cases e with
    | number n' => exact .number h
    | _ => cases h
  | arithmetic left op right ihl ihr =>
    cases e with
    | arithmetic left' op' right' =>
      rw [sameValue, Bool.and_eq_true, Bool.and_eq_true, beq_iff_eq] at h
      obtain ⟨⟨hleft, rfl⟩, hright⟩ := h
      exact alike_operation op.symbol (ihl hleft) (ihr hright)
    | _ => cases h
  | comparison left op right ihl ihr =>
    cases e with
    | comparison left' op' right' =>
      rw [sameValue, Bool.and_eq_true, Bool.and_eq_true, beq_iff_eq] at h
      obtain ⟨⟨hleft, rfl⟩, hright⟩ := h
      exact alike_operation op.symbol (ihl hleft) (ihr hright)
    | _ => cases h
  | aggregate op argument ih =>
    cases e with
    | aggregate op' argument' =>
      rw [sameValue, Bool.and_eq_true, beq_iff_eq] at h
      obtain ⟨rfl, hargument⟩ := h
      exact alike_applied op.name (ih hargument)
    | _ => cases h
  | unary f argument ih =>
    cases e with
    | unary f' argument' =>
      rw [sameValue, Bool.and_eq_true, beq_iff_eq] at h
      obtain ⟨rfl, hargument⟩ := h
      exact alike_applied f.name (ih hargument)
    | _ => cases h
  | binary f first second iha ihb =>
    cases e with
    | binary f' first' second' =>
      rw [sameValue, Bool.and_eq_true, Bool.and_eq_true, beq_iff_eq] at h
      obtain ⟨⟨rfl, hfirst⟩, hsecond⟩ := h
      have hsecond := ((ihb hsecond).after [' ']).after [',']
      exact alike_applied f.name ((iha hfirst).append hsecond)
    | _ => cases h

end Expr

theorem CaseResult.alike {r s : CaseResult} (h : r.sameValue s = true) :
    Alike r.chars s.chars (r.trees.flatMap Expr.numbers) (s.trees.flatMap Expr.numbers) := by
  unfold sameValue at h
  split at h
  · next c d =>
    obtain rfl := eq_of_beq h
    exact .literal c.chars
  · next d e =>
    simp only [trees, List.flatMap_singleton]
    exact Expr.alike h
  · cases h

theorem Case.alike {c d : Case} (h : c.sameValue d = true) :
    Alike c.chars d.chars (c.trees.flatMap Expr.numbers) (d.trees.flatMap Expr.numbers) := by
  rw [sameValue, Bool.and_eq_true] at h
  obtain ⟨hcondition, hresult⟩ := h
  simp only [trees, List.flatMap_cons]
  exact (((Expr.alike hcondition).after "case ".toList).before " return ".toList).append
    (CaseResult.alike hresult)

theorem Switch.alike {s t : Switch} (h : s.sameValue t = true) :
    Alike s.chars t.chars (s.trees.flatMap Expr.numbers) (t.trees.flatMap Expr.numbers) := by
  rw [sameValue, Bool.and_eq_true] at h
  obtain ⟨hcases, hotherwise⟩ := h
  have hsame := forall₂_of_same sameCases (fun _ _ => rfl) (fun _ _ => rfl)
    (fun _ _ _ _ => rfl) hcases
  have hrows := Alike.flatMap (hsame.imp fun c d hcd => (Case.alike hcd).before ['\n'])
  simp only [trees, List.flatMap_append, List.flatMap_assoc]
  exact (((hrows.after "switch\n".toList).before "default return ".toList).append
    (CaseResult.alike hotherwise)).before ['\n']

theorem Pair.alike {p q : Pair} (separator : Char) (h : p.sameValue q = true) :
    Alike (p.chars separator) (q.chars separator) p.numbers q.numbers := by
  rw [sameValue, Bool.and_eq_true] at h
  exact (Alike.number h.1).append ((Alike.number h.2).after [separator])

theorem Grid.alike {g k : Grid} (h : g.sameValue k = true) :
    Alike g.chars k.chars (g.x.numbers ++ g.y.numbers) (k.x.numbers ++ k.y.numbers) := by
  rw [sameValue, Bool.and_eq_true, Bool.and_eq_true, beq_iff_eq] at h
  obtain ⟨⟨hx, hy⟩, hop⟩ := h
  unfold chars
  rw [hop]
  have hxs := ((Pair.alike ':' hx).after "coverage myCoverage\nover $p x((".toList).before
    ")), $q y((".toList
  exact (((hxs.append (Pair.alike ':' hy)).before ")) values $p ".toList).before _).before _

theorem Clip.alike {c d : Clip} (h : c.sameValue d = true) :
    Alike c.chars d.chars (c.vertices.flatMap Pair.numbers) (d.vertices.flatMap Pair.numbers) := by
  rw [sameValue, Bool.and_eq_true, beq_iff_eq] at h
  obtain ⟨hvar, hvertices⟩ := h
  have hsame := forall₂_of_same sameVertices (fun _ _ => rfl) (fun _ _ => rfl)
    (fun _ _ _ _ => rfl) hvertices
  have hpoints := Alike.joined [','] (hsame.imp fun p q hpq => Pair.alike ' ' hpq)
  unfold chars
  rw [hvar]
  exact (hpoints.after _).before _

theorem Payload.alike {p q : Payload} (h : p.sameValue q = true) :
    Alike p.chars q.chars p.numbers q.numbers := by
  unfold sameValue at h
  unfold numbers
  split at h
  · exact .literal ['1']
  · next d e =>
    simp only [trees, points, List.flatMap_singleton, List.flatMap_nil, List.append_nil]
    exact Expr.alike h
  · next s t =>
    simp only [trees, points, List.flatMap_nil, List.append_nil]
    exact Switch.alike h
  · next g k =>
    simp only [trees, points, List.flatMap_nil, List.flatMap_cons, List.append_nil,
      List.nil_append]
    exact Grid.alike h
  · next c d => exact Clip.alike h
  · cases h

namespace Query

/-- Equal coverages have the same clauses, where no number is written. -/
theorem bindings_eq {q r : Query} (h : sameCoverages q.coverages r.coverages = true) :
    q.bindings = r.bindings := by
  have hsame := forall₂_of_same sameCoverages (fun _ _ => rfl) (fun _ _ => rfl)
    (fun _ _ _ _ => rfl) h
  have of_same : ∀ c d : Coverage, c.sameValue d = true → c.binding = d.binding := by
    intro c d hcd
    rw [Coverage.sameValue, Bool.and_eq_true, Bool.and_eq_true, beq_iff_eq, beq_iff_eq] at hcd
    rw [Coverage.binding, Coverage.binding, hcd.1.1, hcd.1.2]
  unfold bindings
  rw [← List.forall₂_eq_eq_eq, List.forall₂_map_left_iff, List.forall₂_map_right_iff]
  exact hsame.imp of_same

theorem alike {q r : Query} (h : q.sameValue r = true) (f : Option OutputFormat) :
    Alike (q.charsIn f) (r.charsIn f) q.payload.numbers r.payload.numbers := by
  rw [sameValue, Bool.and_eq_true] at h
  have hpayload := Payload.alike h.2
  unfold charsIn clauseChars
  rw [map_sourceChars, map_sourceChars, bindings_eq h.1]
  apply Alike.after
  cases f with
  | none => exact hpayload
  | some format =>
    exact (((hpayload.after "encode(".toList).before ", \"".toList).before _).before _

end Query

/-- Something that is written, a query in a format or in none. -/
inductive Writing where
  | axis (a : AxisSubset)
  | expr (e : Expr)
  | case (c : Case)
  | switch (s : Switch)
  | payload (p : Payload)
  | query (q : Query) (format : Option OutputFormat)

namespace Writing

/-- Equality with numbers compared by value, and in one format. -/
def sameValue : Writing → Writing → Bool
  | axis a, axis b => a.sameValue b
  | expr a, expr b => a.sameValue b
  | case a, case b => a.sameValue b
  | switch a, switch b => a.sameValue b
  | payload a, payload b => a.sameValue b
  | query a f, query b g => a.sameValue b && f == g
  | _, _ => false

def render : Writing → Except QueryError String
  | axis a => .ok a.render
  | expr e => .ok e.render
  | case c => .ok (String.ofList c.chars)
  | switch s => .ok (String.ofList s.chars)
  | payload p => .ok (String.ofList p.chars)
  | query q format => q.renderAs (format.map OutputFormat.name)

/-- The numbers that are written; those of a query are in its payload. -/
def numbers : Writing → List Number
  | axis a => a.numbers
  | expr e => e.numbers
  | case c => c.trees.flatMap Expr.numbers
  | switch s => s.trees.flatMap Expr.numbers
  | payload p => p.numbers
  | query q _ => q.payload.numbers

theorem exists_alike {a b : Writing} (h : a.sameValue b = true) :
    ∃ x y, a.render = .ok (String.ofList x) ∧ b.render = .ok (String.ofList y) ∧
      Alike x y a.numbers b.numbers := by
  unfold sameValue at h
  split at h
  · exact ⟨_, _, rfl, rfl, AxisSubset.alike h⟩
  · exact ⟨_, _, rfl, rfl, Expr.alike h⟩
  · exact ⟨_, _, rfl, rfl, Case.alike h⟩
  · exact ⟨_, _, rfl, rfl, Switch.alike h⟩
  · exact ⟨_, _, rfl, rfl, Payload.alike h⟩
  · next q f r g =>
    rw [Bool.and_eq_true, beq_iff_eq] at h
    obtain ⟨hquery, rfl⟩ := h
    exact ⟨_, _, q.renderAs_name f, r.renderAs_name f, Query.alike hquery f⟩
  · cases h

/-- What is equal has one text exactly if its zeros have the same signs. -/
theorem render_eq_iff_zeroSigns {a b : Writing} (h : a.sameValue b = true) :
    a.render = b.render ↔ Number.zeroSigns a.numbers = Number.zeroSigns b.numbers := by
  obtain ⟨x, y, ha, hb, halike⟩ := exists_alike h
  rw [ha, hb, ← halike.eq_iff, Except.ok.injEq, String.ofList_inj]

/-- Equal polygons of which one has the negative zero for a corner are written differently. -/
theorem render_eq_iff_zeroSigns_clip :
    let clipped (negative : Bool) : Writing :=
      query ⟨⟨["A"], "$i1", none⟩, [], .clip ⟨"$i1", [⟨.zero negative, .int 1⟩]⟩⟩ (some .png)
    (clipped false).sameValue (clipped true) = true ∧
      (clipped false).render ≠ (clipped true).render := by
  intro clipped
  have hsame : (clipped false).sameValue (clipped true) = true := by decide
  refine ⟨hsame, ?_⟩
  rw [Ne, render_eq_iff_zeroSigns hsame]
  decide

/-- The two zeros are equal as trees and are not written alike. -/
theorem zeros_render_apart :
    (expr (.number (.zero false))).sameValue (expr (.number (.zero true))) = true ∧
      (expr (.number (.zero false))).render = .ok "0.0" ∧
      (expr (.number (.zero true))).render = .ok "-0.0" := by
  have hrender (negative : Bool) : (expr (.number (.zero negative))).render =
      .ok (String.ofList ((if negative then ['-'] else []) ++ ['0', '.', '0'])) := by
    rw [render, Expr.render, Expr.chars, Number.chars_zero]
  exact ⟨rfl, hrender false, hrender true⟩

end Writing

end CoverageQuery
