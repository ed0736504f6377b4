import CoverageQuery.Proofs.Query.Payload

/-!
# Unique readability of queries

The text of a query determines its iteration clauses, its format and, as far as it is written, its
payload. The clauses end at the keyword behind them, and the wrapper of an encoded payload is told
by its name.
-/

namespace CoverageQuery

open Text

namespace Coverage

/-- The variable and the names can be read back from an iteration clause. -/
structure Named (c : Coverage) : Prop where
  var : VariableName c.var
  names : ∀ name ∈ c.names, Word name.toList

/-- What an iteration clause says: the variable and the names it is bound to. -/
def binding (c : Coverage) : String × List String := (c.var, c.names)

theorem recovers_names {c d : Coverage} (hc : c.Named) (hd : d.Named) :
    Recovers (· = ')') c.namesChars d.namesChars (c.names = d.names) := by
  have hjoined : Recovers (fun x => isWordChar x = false ∧ x ≠ ',' ∧ ¬isWordChar x = true)
      (joined [',', ' '] (c.names.map String.toList))
      (joined [',', ' '] (d.names.map String.toList)) (c.names.map id = d.names.map id) := by
    apply recovers_joined
    · decide
    · exact fun name hname => (hc.names name hname).begins
    · exact fun name hname => (hd.names name hname).begins
    · intro m hm n hn
      exact (recovers_run (hc.names m hm).2 (hd.names n hn).2).imp String.toList_inj.mp
  rw [List.map_id, List.map_id] at hjoined
  apply hjoined.restrict
  rintro x rfl
  decide

theorem Named.begins {c : Coverage} (h : c.Named) :
    Begins (· = '$') (Query.sourceChars c) := by
  obtain ⟨digits, -, hvar⟩ := h.var
  rw [Query.sourceChars, hvar]
  exact ⟨'$', _, rfl, rfl⟩

theorem recovers_source {c d : Coverage} (hc : c.Named) (hd : d.Named) :
    Recovers (fun _ => True) (Query.sourceChars c) (Query.sourceChars d)
      (c.binding = d.binding) := by
  intro s t _ _ heq
  unfold Query.sourceChars at heq
  simp only [List.append_assoc] at heq
  obtain ⟨hvar, hin⟩ := hc.var.recovers hd.var _ _ (by simp) (by simp) heq
  obtain ⟨hnames, hend⟩ := recovers_names hc hd _ _ (by simp) (by simp)
    (List.append_cancel_left hin)
  refine ⟨?_, List.append_cancel_left hend⟩
  rw [binding, binding, hvar, hnames]

end Coverage

namespace Query

/-- The variables and names of the clauses and all of the payload can be read back. -/
structure Legible (q : Query) : Prop where
  sources : ∀ c ∈ q.coverages, c.Named
  payload : q.payload.Legible

/-- What the iteration clauses say, in their order. -/
def bindings (q : Query) : List (String × List String) := q.coverages.map Coverage.binding

theorem recovers_clauses {q r : Query} (hq : q.Legible) (hr : r.Legible) :
    Recovers (· = ' ') q.clauseChars r.clauseChars (q.bindings = r.bindings) := by
  have hjoined : Recovers (fun c => True ∧ c ≠ ',' ∧ ¬c = '$')
      (joined [',', '\n'] (q.coverages.map sourceChars))
      (joined [',', '\n'] (r.coverages.map sourceChars)) (q.bindings = r.bindings) := by
    apply recovers_joined trivial
    · exact fun c hc => (hq.sources c hc).begins
    · exact fun c hc => (hr.sources c hc).begins
    · intro c hc d hd
      exact Coverage.recovers_source (hq.sources c hc) (hr.sources d hd)
  intro s t hs ht heq
  have hspace : ∀ c, c = ' ' → True ∧ c ≠ ',' ∧ ¬c = '$' := by
    rintro c rfl
    decide
  unfold clauseChars at heq
  rw [List.append_assoc, List.append_assoc] at heq
  exact hjoined s t (hs.imp hspace) (ht.imp hspace) (List.append_cancel_left heq)

theorem form_ne_encoded (p : Payload) : p.form ≠ .encoded := by
  cases p <;> nofun

theorem ofText_encoded (payload : Payload) (format : OutputFormat) :
    PayloadForm.ofText (returnChars payload (some format)) = .encoded := by
  have hword : PayloadForm.ofText "encode(".toList = .encoded := by decide
  unfold returnChars
  simp only [List.append_assoc]
  exact (PayloadForm.ofText_literal (by decide) _).trans hword

theorem ofText_plain {payload : Payload} (h : payload.Legible) :
    PayloadForm.ofText (returnChars payload none) = payload.form := by
  have hform := Payload.ofText_chars h []
  rwa [List.append_nil] at hform

/-- An encoded payload is never taken for a plain one, and from both the payload can be read. -/
theorem eq_of_returnChars {p q : Payload} (hp : p.Legible) (hq : q.Legible)
    {f g : Option OutputFormat} (heq : returnChars p f = returnChars q g) :
    f = g ∧ p.written = q.written := by
  have hforms := congrArg PayloadForm.ofText heq
  cases f with
  | none =>
    cases g with
    | none =>
      have hchars : p.chars ++ [] = q.chars ++ [] := by
        rw [List.append_nil, List.append_nil]
        exact heq
      exact ⟨rfl, (Payload.recovers_chars hp hq [] [] (opens_nil _) (opens_nil _) hchars).1⟩
    | some format =>
      rw [ofText_plain hp, ofText_encoded] at hforms
      exact absurd hforms (form_ne_encoded p)
  | some format =>
    cases g with
    | none =>
      rw [ofText_plain hq, ofText_encoded] at hforms
      exact absurd hforms.symm (form_ne_encoded q)
    | some format' =>
      unfold returnChars at heq
      simp only [List.append_assoc, List.append_cancel_left_eq] at heq
      obtain ⟨hpayload, hname⟩ := Payload.recovers_chars hp hq _ _ (by simp [Expr.Boundary])
        (by simp [Expr.Boundary]) heq
      have hformat := List.append_cancel_right (List.append_cancel_left hname)
      rw [eq_of_found OutputFormat.ofName?_name (String.toList_inj.mp hformat)]
      exact ⟨rfl, hpayload⟩

theorem eq_of_charsIn {q r : Query} (hq : q.Legible) (hr : r.Legible)
    {f g : Option OutputFormat} (heq : q.charsIn f = r.charsIn g) :
    q.bindings = r.bindings ∧ f = g ∧ q.payload.written = r.payload.written := by
  unfold charsIn at heq
  rw [List.append_assoc, List.append_assoc] at heq
  obtain ⟨hbindings, hreturn⟩ := recovers_clauses hq hr _ _ (by simp) (by simp) heq
  exact ⟨hbindings, eq_of_returnChars hq.payload hr.payload (List.append_cancel_left hreturn)⟩

/-- The text of one iteration clause. -/
def bindingChars (binding : String × List String) : List Char :=
  binding.1.toList ++ " in (".toList ++ joined [',', ' '] (binding.2.map String.toList) ++ [')']

theorem map_sourceChars (q : Query) :
    q.coverages.map sourceChars = q.bindings.map bindingChars := by
  rw [bindings, List.map_map]
  rfl

theorem returnChars_congr {p q : Payload} (h : p.written = q.written) (f : Option OutputFormat) :
    returnChars p f = returnChars q f := by
  have hchars : p.chars = q.chars := by rw [← p.chars_written, h, q.chars_written]
  cases f with
  | none => exact hchars
  | some format =>
    unfold returnChars
    rw [hchars]

theorem charsIn_congr {q r : Query} (hbindings : q.bindings = r.bindings)
    (hpayload : q.payload.written = r.payload.written) (f : Option OutputFormat) :
    q.charsIn f = r.charsIn f := by
  unfold charsIn clauseChars
  rw [map_sourceChars, map_sourceChars, hbindings, returnChars_congr hpayload]

theorem renderAs_name (q : Query) (f : Option OutputFormat) :
    q.renderAs (f.map OutputFormat.name) = .ok (String.ofList (q.charsIn f)) := by
  cases f with
  | none => rfl
  | some format =>
    rw [Option.map_some, renderAs, OutputFormat.known_eq_ok_iff.mpr format.ofName?_name]
    rfl

/-- Two queries have one text exactly if they bind the same variables to the same names, are
returned in the same format and have the same payload as far as it is written. -/
theorem renderAs_eq_iff {q r : Query} (hq : q.Legible) (hr : r.Legible)
    (f g : Option OutputFormat) :
    (∃ text, q.renderAs (f.map OutputFormat.name) = .ok text ∧
      r.renderAs (g.map OutputFormat.name) = .ok text) ↔
    q.bindings = r.bindings ∧ f = g ∧ q.payload.written = r.payload.written := by
  rw [renderAs_name, renderAs_name]
  constructor
  · rintro ⟨text, hqtext, hrtext⟩
    apply eq_of_charsIn hq hr
    apply String.ofList_injective
    exact Except.ok.inj (hqtext.trans hrtext.symm)
  · rintro ⟨hbindings, rfl, hpayload⟩
    exact ⟨_, rfl, congrArg _ (congrArg _ (charsIn_congr hbindings hpayload f).symm)⟩

/-- A query whose payload is not set yet already has the text of one that returns the number one. -/
theorem renderAs_eq_iff_unset :
    ∃ text, renderAs ⟨⟨["A"], "$i0", none⟩, [], .unset⟩ (some "png") = .ok text ∧
      renderAs ⟨⟨["A"], "$i0", none⟩, [], .expr (.number (.int 1))⟩ (some "png") = .ok text := by
  have hnamed : Coverage.Named ⟨["A"], "$i0", none⟩ := ⟨⟨['0'], by decide, by decide⟩, by decide⟩
  have hlegible : ∀ payload : Payload, payload.Legible →
      Legible ⟨⟨["A"], "$i0", none⟩, [], payload⟩ := by
    intro payload hpayload
    refine ⟨?_, hpayload⟩
    rw [coverages, List.forall_mem_singleton]
    exact hnamed
  exact (renderAs_eq_iff (hlegible .unset trivial) (hlegible (.expr (.number (.int 1))) trivial)
    (some .png) (some .png)).mpr ⟨rfl, rfl, rfl⟩

end Query

end CoverageQuery
