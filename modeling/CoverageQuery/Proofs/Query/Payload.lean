import CoverageQuery.Proofs.Expr.Readability
import CoverageQuery.Query.Basic

/-!
# Unique readability of payloads

Switches, grids and clipped polygons end where their text says, whatever comes after them. The
first word of a payload tells its form, and no function of an expression has such a word for its
name.
-/

namespace CoverageQuery

open Text

theorem recovers_digitChars (m n : Nat) :
    Recovers (·.isDigit = false) (digitChars m) (digitChars n) (m = n) := by
  apply (recovers_run (digits_digitChars m).2 (digits_digitChars n).2).imp
  intro h
  rw [← digitsValue_digitChars m, h, digitsValue_digitChars]

theorem Color.recovers_chars (c d : Color) : Recovers (fun _ => True) c.chars d.chars (c = d) := by
  intro s t _ _ heq
  unfold Color.chars at heq
  simp only [List.append_assoc, List.append_cancel_left_eq] at heq
  obtain ⟨hred, hgreens⟩ := recovers_digitChars _ _ _ _ (by simp) (by simp) heq
  obtain ⟨hgreen, hblues⟩ := recovers_digitChars _ _ _ _ (by simp) (by simp)
    (List.append_cancel_left hgreens)
  obtain ⟨hblue, hclose⟩ := recovers_digitChars _ _ _ _ (by simp) (by simp)
    (List.append_cancel_left hblues)
  obtain ⟨red, green, blue⟩ := c
  obtain ⟨red', green', blue'⟩ := d
  refine ⟨?_, List.append_cancel_left hclose⟩
  rw [Color.mk.injEq]
  exact ⟨UInt8.toNat_inj.mp hred, UInt8.toNat_inj.mp hgreen, UInt8.toNat_inj.mp hblue⟩

namespace CaseResult

def written : CaseResult → CaseResult
  | color c => color c
  | expr e => expr e.written

def Legible : CaseResult → Prop
  | color _ => True
  | expr e => e.Legible

@[simp] theorem chars_written (r : CaseResult) : r.written.chars = r.chars := by
  cases r with
  | color c => rfl
  | expr e => exact e.chars_written

theorem begins_brace (c : Color) : Begins (· = '\x7b') c.chars := ⟨'\x7b', _, rfl, rfl⟩

theorem begins_expr {e : Expr} (h : e.Legible) : Begins (· ≠ '\x7b') e.chars := by
  apply h.begins.imp
  rintro c hc rfl
  exact e.shape_ne_other hc.symm

theorem recovers_chars {a b : CaseResult} (ha : a.Legible) (hb : b.Legible) :
    Recovers Expr.Boundary a.chars b.chars (a.written = b.written) := by
  cases a with
  | color c =>
    cases b with
    | color d =>
      exact ((Color.recovers_chars c d).restrict fun _ _ => trivial).imp (congrArg color)
    | expr e => exact .of_begins (begins_brace c) (begins_expr hb) fun _ hc hne => hne hc
  | expr e =>
    cases b with
    | color d => exact .of_begins (begins_expr ha) (begins_brace d) fun _ hne => hne
    | expr e' => exact (Expr.recovers_chars ha hb).imp (congrArg expr)

end CaseResult

namespace Case

def written (c : Case) : Case :=
  ⟨⟨c.condition.left.written, c.condition.op, c.condition.right.written⟩, c.result.written⟩

structure Legible (c : Case) : Prop where
  condition : c.condition.toExpr.Legible
  result : c.result.Legible

@[simp] theorem chars_written (c : Case) : c.written.chars = c.chars := by
  have hcondition : c.written.condition.toExpr.chars = c.condition.toExpr.chars :=
    c.condition.toExpr.chars_written
  have hresult : c.written.result.chars = c.result.chars := c.result.chars_written
  unfold chars
  rw [hcondition, hresult]

theorem begins_row (c : Case) : Begins (· = 'c') (c.chars ++ ['\n']) := ⟨'c', _, rfl, rfl⟩

/-- The line of a case can be read back whatever comes after it. -/
theorem recovers_row {a b : Case} (ha : a.Legible) (hb : b.Legible) :
    Recovers (fun _ => True) (a.chars ++ ['\n']) (b.chars ++ ['\n']) (a.written = b.written) := by
  intro s t _ _ heq
  unfold chars at heq
  simp only [List.append_assoc, List.append_cancel_left_eq] at heq
  obtain ⟨hcondition, hreturn⟩ := Expr.recovers_chars ha.condition hb.condition _ _
    (by simp [Expr.Boundary]) (by simp [Expr.Boundary]) heq
  obtain ⟨hresult, hend⟩ := CaseResult.recovers_chars ha.result hb.result _ _
    (by simp [Expr.Boundary]) (by simp [Expr.Boundary]) (List.append_cancel_left hreturn)
  simp only [Comparison.toExpr, Expr.written, Expr.comparison.injEq] at hcondition
  obtain ⟨hleft, hop, hright⟩ := hcondition
  refine ⟨?_, List.append_cancel_left hend⟩
  rw [written, written, hleft, hop, hright, hresult]

end Case

namespace Switch

def written (s : Switch) : Switch := ⟨s.cases.map Case.written, s.otherwise.written⟩

structure Legible (s : Switch) : Prop where
  cases : ∀ c ∈ s.cases, c.Legible
  otherwise : s.otherwise.Legible

@[simp] theorem chars_written (s : Switch) : s.written.chars = s.chars := by
  have hcases : (s.cases.map Case.written).flatMap (fun c => c.chars ++ ['\n']) =
      s.cases.flatMap fun c => c.chars ++ ['\n'] := by
    simp only [List.flatMap_map, Case.chars_written]
  unfold chars
  rw [written, hcases, CaseResult.chars_written]

/-- The cases can be counted and read back, since the line of the default begins otherwise. -/
theorem recovers_chars {s t : Switch} (hs : s.Legible) (ht : t.Legible) :
    Recovers (fun _ => True) s.chars t.chars (s.written = t.written) := by
  intro u v _ _ heq
  unfold chars at heq
  simp only [List.append_assoc, List.append_cancel_left_eq] at heq
  have hrows : Recovers (fun c => True ∧ c ≠ 'c') (s.cases.flatMap fun c => c.chars ++ ['\n'])
      (t.cases.flatMap fun c => c.chars ++ ['\n'])
      (s.cases.map Case.written = t.cases.map Case.written) := by
    apply recovers_rows trivial
    · exact fun c _ => c.begins_row
    · exact fun c _ => c.begins_row
    · intro c hc d hd
      exact Case.recovers_row (hs.cases c hc) (ht.cases d hd)
  obtain ⟨hcases, hdefault⟩ := hrows _ _ (by simp) (by simp) heq
  obtain ⟨hotherwise, hend⟩ := CaseResult.recovers_chars hs.otherwise ht.otherwise _ _
    (by simp [Expr.Boundary]) (by simp [Expr.Boundary]) (List.append_cancel_left hdefault)
  refine ⟨?_, List.append_cancel_left hend⟩
  rw [written, written, hcases, hotherwise]

end Switch

namespace Pair

structure Legible (p : Pair) : Prop where
  x : p.x.IsFinite
  y : p.y.IsFinite

theorem Legible.begins {p : Pair} (h : p.Legible) (separator : Char) :
    Begins Numeral.Starts (p.chars separator) :=
  (Number.begins_chars h.x).append _

theorem recovers_chars {separator : Char} (hseparator : Numeral.Stops separator) {a b : Pair}
    (ha : a.Legible) (hb : b.Legible) :
    Recovers Numeral.Stops (a.chars separator) (b.chars separator) (a = b) := by
  intro s t hs ht heq
  simp only [chars, List.append_assoc, List.cons_append] at heq
  obtain ⟨hx, hseparated⟩ := (Number.recovers_chars ha.x hb.x).before hseparator heq
  obtain ⟨hy, hst⟩ := Number.recovers_chars ha.y hb.y s t hs ht hseparated
  obtain ⟨x, y⟩ := a
  obtain ⟨x', y'⟩ := b
  refine ⟨?_, hst⟩
  rw [Pair.mk.injEq]
  exact ⟨hx, hy⟩

end Pair

namespace Grid

structure Legible (g : Grid) : Prop where
  x : g.x.Legible
  y : g.y.Legible

theorem recovers_chars {g h : Grid} (hg : g.Legible) (hh : h.Legible) :
    Recovers (fun _ => True) g.chars h.chars (g = h) := by
  intro s t _ _ heq
  have hcolon : Numeral.Stops ':' := by decide
  unfold chars at heq
  simp only [List.append_assoc, List.append_cancel_left_eq] at heq
  obtain ⟨hx, hys⟩ := Pair.recovers_chars hcolon hg.x hh.x _ _ (by simp [Numeral.Stops])
    (by simp [Numeral.Stops]) heq
  obtain ⟨hy, hops⟩ := Pair.recovers_chars hcolon hg.y hh.y _ _ (by simp [Numeral.Stops])
    (by simp [Numeral.Stops])
    (List.append_cancel_left hys)
  obtain ⟨hop, hend⟩ := recovers_run g.op.symbol_unspaced h.op.symbol_unspaced _ _ (by simp)
    (by simp) (List.append_cancel_left hops)
  have hsame := eq_of_found ComparisonOp.ofSymbol?_symbol (String.toList_inj.mp hop)
  obtain ⟨x, y, op⟩ := g
  obtain ⟨x', y', op'⟩ := h
  refine ⟨?_, List.append_cancel_left hend⟩
  rw [Grid.mk.injEq]
  exact ⟨hx, hy, hsame⟩

end Grid

namespace Clip

structure Legible (c : Clip) : Prop where
  var : VariableName c.var
  vertices : ∀ p ∈ c.vertices, p.Legible

theorem recovers_vertices {ps qs : List Pair} (hps : ∀ p ∈ ps, p.Legible)
    (hqs : ∀ q ∈ qs, q.Legible) :
    Recovers (· = ')') (joined [','] (ps.map (Pair.chars ' ')))
      (joined [','] (qs.map (Pair.chars ' '))) (ps = qs) := by
  have hspace : Numeral.Stops ' ' := by decide
  have hjoined : Recovers (fun c => Numeral.Stops c ∧ c ≠ ',' ∧ ¬Numeral.Starts c)
      (joined [','] (ps.map (Pair.chars ' '))) (joined [','] (qs.map (Pair.chars ' ')))
      (ps.map id = qs.map id) := by
    apply recovers_joined
    · decide
    · exact fun p hp => (hps p hp).begins ' '
    · exact fun q hq => (hqs q hq).begins ' '
    · intro p hp q hq
      exact Pair.recovers_chars hspace (hps p hp) (hqs q hq)
  rw [List.map_id, List.map_id] at hjoined
  apply hjoined.restrict
  rintro c rfl
  decide

theorem recovers_chars {c d : Clip} (hc : c.Legible) (hd : d.Legible) :
    Recovers (fun _ => True) c.chars d.chars (c = d) := by
  intro s t _ _ heq
  unfold chars at heq
  simp only [List.append_assoc, List.append_cancel_left_eq] at heq
  obtain ⟨hvar, hpolygon⟩ := hc.var.recovers hd.var _ _ (by simp) (by simp) heq
  obtain ⟨hvertices, hend⟩ := recovers_vertices hc.vertices hd.vertices _ _ (by simp) (by simp)
    (List.append_cancel_left hpolygon)
  obtain ⟨var, vertices⟩ := c
  obtain ⟨var', vertices'⟩ := d
  refine ⟨?_, List.append_cancel_left hend⟩
  rw [Clip.mk.injEq]
  exact ⟨hvar, hvertices⟩

end Clip

/-- What the first word of a payload tells about it. -/
inductive PayloadForm where
  | value | switch | grid | clip | encoded
deriving DecidableEq

namespace PayloadForm

def ofWord (word : List Char) : PayloadForm :=
  if word = "switch".toList then switch
  else if word = "coverage".toList then grid
  else if word = "clip".toList then clip
  else if word = "encode".toList then encoded
  else value

def ofText (text : List Char) : PayloadForm := ofWord (text.takeWhile Char.isAlphanum)

theorem ofText_run {word : List Char} (hword : ∀ c ∈ word, c.isAlphanum = true)
    {rest : List Char} (hrest : Opens (·.isAlphanum = false) rest) :
    ofText (word ++ rest) = ofWord word := by
  rw [ofText, takeWhile_run hword hrest]

theorem ofText_literal {literal : String}
    (h : (literal.toList.takeWhile Char.isAlphanum).length ≠ literal.toList.length)
    (rest : List Char) : ofText (literal.toList ++ rest) = ofText literal.toList := by
  rw [ofText, ofText, List.takeWhile_append, if_neg h]

/-- A text that does not begin with a lower case letter begins with none of the words. -/
theorem ofText_of_begins {text : List Char} (h : Begins (·.isLower = false) text) :
    ofText text = value := by
  obtain ⟨c, rest, rfl, hc⟩ := h
  have hopens : Opens (·.isLower = false) ((c :: rest).takeWhile Char.isAlphanum) := by
    rw [List.takeWhile_cons]
    split
    · exact (opens_cons _ _ _).mpr hc
    · exact opens_nil _
  have hne : ∀ word : List Char, Begins (·.isLower = true) word →
      (c :: rest).takeWhile Char.isAlphanum ≠ word := by
    intro word hword
    apply (hword.ne hopens _).symm
    intro d hlower hnot
    rw [hlower] at hnot
    cases hnot
  rw [ofText, ofWord, if_neg (hne "switch".toList ⟨'s', _, rfl, by decide⟩),
    if_neg (hne "coverage".toList ⟨'c', _, rfl, by decide⟩),
    if_neg (hne "clip".toList ⟨'c', _, rfl, by decide⟩),
    if_neg (hne "encode".toList ⟨'e', _, rfl, by decide⟩)]

theorem ofWord_aggregate (op : AggregateOp) : ofWord op.name.toList = value := by
  cases op <;> decide

theorem ofWord_function (f : MathFunction) : ofWord f.name.toList = value := by
  cases f <;> decide

theorem ofText_applied {name : String} (hname : Expr.NameRun name) (arguments rest : List Char) :
    ofText (Expr.applied name arguments ++ rest) = ofWord name.toList := by
  rw [Expr.applied, List.append_assoc, List.append_assoc]
  exact ofText_run hname ((opens_cons _ _ _).mpr (by decide))

/-- No expression begins with one of the words. -/
theorem ofText_expr {e : Expr} (he : e.Legible) (rest : List Char) :
    ofText (e.chars ++ rest) = value := by
  have hother : e.shape ≠ .application → ofText (e.chars ++ rest) = value := by
    intro hshape
    apply ofText_of_begins ((he.begins.append rest).imp _)
    intro c hc
    rw [Bool.eq_false_iff]
    intro hlower
    exact hshape (hc.symm.trans (Expr.Shape.ofFirst_lower hlower))
  cases e with
  | aggregate op argument =>
    exact (ofText_applied (Expr.nameRun_aggregate op) _ rest).trans (ofWord_aggregate op)
  | unary f argument =>
    exact (ofText_applied (Expr.nameRun_function f) _ rest).trans (ofWord_function f)
  | binary f first second =>
    exact (ofText_applied (Expr.nameRun_function f) _ rest).trans (ofWord_function f)
  | _ => exact hother nofun

end PayloadForm

namespace Payload

/-- The payload as far as it is written; an unset one is written as the number one. -/
def written : Payload → Payload
  | unset => expr (.number (.int 1))
  | expr e => expr e.written
  | switch s => switch s.written
  | grid g => grid g
  | clip c => clip c

def Legible : Payload → Prop
  | unset => True
  | expr e => e.Legible
  | switch s => s.Legible
  | grid g => g.Legible
  | clip c => c.Legible

def form : Payload → PayloadForm
  | unset | expr _ => .value
  | switch _ => .switch
  | grid _ => .grid
  | clip _ => .clip

@[simp] theorem chars_written (p : Payload) : p.written.chars = p.chars := by
  cases p with
  | unset => rfl
  | expr e => exact e.chars_written
  | switch s => exact s.chars_written
  | grid g => rfl
  | clip c => rfl

theorem exists_expr {p : Payload} (hp : p.Legible) (hform : p.form = .value) :
    ∃ e : Expr, e.Legible ∧ e.chars = p.chars ∧ expr e.written = p.written := by
  cases p with
  | unset => exact ⟨.number (.int 1), trivial, rfl, rfl⟩
  | expr e => exact ⟨e, hp, rfl, rfl⟩
  | _ => cases hform

theorem ofText_chars {p : Payload} (hp : p.Legible) (rest : List Char) :
    PayloadForm.ofText (p.chars ++ rest) = p.form := by
  have hvalue : p.form = .value → PayloadForm.ofText (p.chars ++ rest) = p.form := by
    intro hform
    obtain ⟨e, he, hchars, -⟩ := exists_expr hp hform
    rw [← hchars, hform, PayloadForm.ofText_expr he]
  cases p with
  | switch s =>
    have hword : PayloadForm.ofText "switch\n".toList = .switch := by decide
    show PayloadForm.ofText (s.chars ++ rest) = .switch
    unfold Switch.chars
    simp only [List.append_assoc]
    exact (PayloadForm.ofText_literal (by decide) _).trans hword
  | grid g =>
    have hword : PayloadForm.ofText "coverage myCoverage\nover $p x((".toList = .grid := by decide
    show PayloadForm.ofText (g.chars ++ rest) = .grid
    unfold Grid.chars
    simp only [List.append_assoc]
    exact (PayloadForm.ofText_literal (by decide) _).trans hword
  | clip c =>
    have hword : PayloadForm.ofText "clip(".toList = .clip := by decide
    show PayloadForm.ofText (c.chars ++ rest) = .clip
    unfold Clip.chars
    simp only [List.append_assoc]
    exact (PayloadForm.ofText_literal (by decide) _).trans hword
  | _ => exact hvalue rfl

theorem recovers_chars {p q : Payload} (hp : p.Legible) (hq : q.Legible) :
    Recovers Expr.Boundary p.chars q.chars (p.written = q.written) := by
  by_cases hform : p.form = q.form
  · have hvalue : p.form = .value →
        Recovers Expr.Boundary p.chars q.chars (p.written = q.written) := by
      intro hpvalue
      obtain ⟨d, hd, hdchars, hdwritten⟩ := exists_expr hp hpvalue
      obtain ⟨e, he, hechars, hewritten⟩ := exists_expr hq (hform.symm.trans hpvalue)
      rw [← hdchars, ← hechars, ← hdwritten, ← hewritten]
      exact (Expr.recovers_chars hd he).imp (congrArg expr)
    cases p with
    | switch s =>
      cases q with
      | switch t =>
        exact ((Switch.recovers_chars hp hq).restrict fun _ _ => trivial).imp (congrArg switch)
      | _ => cases hform
    | grid g =>
      cases q with
      | grid h =>
        exact ((Grid.recovers_chars hp hq).restrict fun _ _ => trivial).imp (congrArg grid)
      | _ => cases hform
    | clip c =>
      cases q with
      | clip d =>
        exact ((Clip.recovers_chars hp hq).restrict fun _ _ => trivial).imp (congrArg clip)
      | _ => cases hform
    | _ => exact hvalue rfl
  · intro s t _ _ heq
    have hforms := congrArg PayloadForm.ofText heq
    rw [ofText_chars hp, ofText_chars hq] at hforms
    exact absurd hforms hform

end Payload

end CoverageQuery
