import CoverageQuery.Proofs.Query.Numbers
import CoverageQuery.Proofs.Request.Reading

/-!
# Parameters that tell requests apart

The parameters of a request can be taken apart again. Every key has its own values, and the bounds
of an axis subset stand after the last parenthesis that opens in its text, whatever its name is made
of. So requests with the same parameters ask for the same.
-/

namespace CoverageQuery

namespace Text

variable {c : Char} {front front' text text' : List Char}

/-- The last of some equal characters divides a text in one way only. -/
theorem eq_of_append_cons (h : c ∉ text) (h' : c ∉ text')
    (heq : front ++ c :: text = front' ++ c :: text') : front = front' ∧ text = text' := by
  have hreversed : text.reverse ++ c :: front.reverse = text'.reverse ++ c :: front'.reverse := by
    simpa using congrArg List.reverse heq
  have hsplit := congrArg (splitAt c) hreversed
  rw [splitAt_append_cons (by simpa using h), splitAt_append_cons (by simpa using h'),
    Prod.mk.injEq, List.reverse_inj, List.reverse_inj] at hsplit
  exact hsplit.symm

theorem not_mem_joined {separator : List Char} {texts : List (List Char)}
    (hseparator : c ∉ separator) (h : ∀ t ∈ texts, c ∉ t) : c ∉ joined separator texts := by
  induction texts with
  | nil => exact List.not_mem_nil
  | cons t texts ih =>
    rw [List.forall_mem_cons] at h
    cases texts with
    | nil => exact h.1
    | cons t' texts => simp [h.1, hseparator, ih h.2]

end Text

open Text

namespace DateLabel

/-- A date is written with digits and hyphens. -/
theorem forall_mark_parts (d : DateLabel) : ∀ c ∈ d.parts, Numeral.Mark c := by
  have hyear : ∀ c ∈ digitChars d.year, Numeral.Mark c :=
    fun c hc => .inl ((digits_digitChars d.year).2 c hc)
  have htwo : ∀ n, ∀ c ∈ twoDigits n, Numeral.Mark c :=
    fun n c hc => .inl ((digitRow_twoDigits n).2 c hc)
  have hhyphen : Numeral.Mark '-' := by decide
  obtain ⟨year, month, day⟩ := d
  cases month with
  | none => simpa [parts] using hyear
  | some m =>
    cases day with
    | none =>
      rw [parts, List.forall_mem_append, List.forall_mem_cons]
      exact ⟨hyear, hhyphen, htwo m⟩
    | some n =>
      rw [parts, List.forall_mem_append, List.forall_mem_append, List.forall_mem_cons,
        List.forall_mem_cons]
      exact ⟨hyear, ⟨hhyphen, htwo m⟩, hhyphen, htwo n⟩

end DateLabel

namespace Bound

/-- No mark of punctuation but the quote is in the text of a bound. -/
theorem forall_mark {b : Bound} (h : b.IsFinite) : ∀ c ∈ b.chars, c = '"' ∨ Numeral.Mark c := by
  cases b with
  | number n => exact fun c hc => .inr (Number.isFinite_iff_forall_mark.mp h c hc)
  | date d =>
    rw [chars, DateLabel.chars, List.forall_mem_append, List.forall_mem_cons,
      List.forall_mem_singleton]
    exact ⟨⟨.inl rfl, fun c hc => .inr (d.forall_mark_parts c hc)⟩, .inl rfl⟩

theorem begins_chars {b : Bound} (hfinite : b.IsFinite) (hformed : b.WellFormed) :
    Begins BoundSpelling.Starts b.chars := by
  obtain ⟨s, hs, hchars, -⟩ := exists_spelling hfinite hformed
  exact hchars ▸ hs.begins

theorem recovers_chars {a b : Bound} (ha : a.IsFinite ∧ a.WellFormed)
    (hb : b.IsFinite ∧ b.WellFormed) :
    Recovers Numeral.Stops a.chars b.chars (a.written = b.written) := by
  obtain ⟨s, hs, hschars, hsvalue⟩ := exists_spelling ha.1 ha.2
  obtain ⟨t, ht, htchars, htvalue⟩ := exists_spelling hb.1 hb.2
  rw [← hschars, ← htchars, ← hsvalue, ← htvalue]
  exact (BoundSpelling.recovers_chars hs ht).imp (congrArg BoundSpelling.value)

end Bound

@[simp] theorem AxisRange.bounds_written (r : AxisRange) :
    r.written.bounds = r.bounds.map Bound.written := by
  cases r <;> rfl

theorem AxisRange.eq_of_bounds {q r : AxisRange} (h : q.bounds = r.bounds) : q = r := by
  cases q <;> cases r <;> simp_all [bounds]

theorem AxisSubset.WellFormed.bounds {a : AxisSubset} (h : a.WellFormed) :
    ∀ b ∈ a.range.bounds, b.IsFinite ∧ b.WellFormed :=
  fun b hb => ⟨h.finite b hb, h.dates b hb⟩

theorem RequestKind.name_injective : Function.Injective RequestKind.name := by
  intro k l h
  cases k <;> cases l <;> simp_all [name]

namespace ServiceRequest

section Subsets

variable {a b : AxisSubset}

theorem subsetChars_written (a : AxisSubset) : subsetChars a.written = subsetChars a := by
  simp [subsetChars, AxisSubset.written, Function.comp_def]

theorem not_mem_bounds (h : a.WellFormed) :
    '(' ∉ joined [','] (a.range.bounds.map Bound.chars) := by
  apply not_mem_joined (by decide)
  rw [List.forall_mem_map]
  intro b hb hmem
  exact absurd (b.forall_mark (h.finite b hb) _ hmem) (by decide)

theorem map_written_bounds (ha : a.WellFormed) (hb : b.WellFormed)
    (h : joined [','] (a.range.bounds.map Bound.chars) =
      joined [','] (b.range.bounds.map Bound.chars)) :
    a.range.bounds.map Bound.written = b.range.bounds.map Bound.written := by
  have hread : Recovers (fun c => Numeral.Stops c ∧ c ≠ ',' ∧ ¬BoundSpelling.Starts c)
      (joined [','] (a.range.bounds.map Bound.chars))
      (joined [','] (b.range.bounds.map Bound.chars))
      (a.range.bounds.map Bound.written = b.range.bounds.map Bound.written) := by
    apply recovers_joined
    · decide
    · exact fun x hx => Bound.begins_chars (ha.finite x hx) (ha.dates x hx)
    · exact fun x hx => Bound.begins_chars (hb.finite x hx) (hb.dates x hx)
    · exact fun x hx y hy => Bound.recovers_chars (ha.bounds x hx) (hb.bounds y hy)
  exact (hread [] [] (opens_nil _) (opens_nil _) (by rw [h])).1

/-- The name may hold parentheses and commas of its own: the bounds have no parenthesis, so the
last one that opens ends the name. -/
theorem subsetChars_eq_iff (ha : a.WellFormed) (hb : b.WellFormed) :
    subsetChars a = subsetChars b ↔ a.written = b.written := by
  constructor
  · intro h
    obtain ⟨hname, hbounds⟩ := eq_of_append_cons (not_mem_bounds ha) (not_mem_bounds hb)
      (List.append_cancel_right h)
    have hrange : a.range.written = b.range.written := by
      apply AxisRange.eq_of_bounds
      rw [AxisRange.bounds_written, AxisRange.bounds_written]
      exact map_written_bounds ha hb hbounds
    rw [AxisSubset.written, AxisSubset.written, String.toList_inj.mp hname, hrange]
  · intro h
    rw [← subsetChars_written a, h, subsetChars_written]

theorem map_subsetChars_eq_iff {as bs : List AxisSubset} (has : ∀ a ∈ as, a.WellFormed)
    (hbs : ∀ b ∈ bs, b.WellFormed) :
    as.map subsetChars = bs.map subsetChars ↔
      as.map AxisSubset.written = bs.map AxisSubset.written := by
  induction as generalizing bs with
  | nil => cases bs <;> simp
  | cons a as ih =>
    cases bs with
    | nil => simp
    | cons b bs =>
      rw [List.forall_mem_cons] at has hbs
      simp only [List.map_cons, List.cons.injEq]
      rw [subsetChars_eq_iff has.1 hbs.1, ih has.2 hbs.2]

end Subsets

/-- The values of a key, in their order. -/
def valuesOf (key : String) (pairs : List (String × String)) : List String :=
  (pairs.filter (·.1 = key)).map Prod.snd

@[simp] theorem valuesOf_append (key : String) (pairs pairs' : List (String × String)) :
    valuesOf key (pairs ++ pairs') = valuesOf key pairs ++ valuesOf key pairs' := by
  simp [valuesOf]

@[simp] theorem valuesOf_map (key name : String) (values : List String) :
    valuesOf key (values.map (name, ·)) = if name = key then values else [] := by
  by_cases h : name = key <;> simp [valuesOf, List.filter_map, Function.comp_def, h]

/-- The pairs in which a request is sent, from what they carry. -/
def pairsOf (service version request : String) (coverageId : Option String)
    (subsets : List String) (mediaType : Option String) : List (String × String) :=
  [service].map ("service", ·) ++ [version].map ("version", ·) ++ [request].map ("request", ·) ++
    coverageId.toList.map ("coverageId", ·) ++ subsets.map ("subset", ·) ++
    mediaType.toList.map ("format", ·)

/-- Every part is found under its key, so the pairs fix all of them. -/
theorem eq_of_pairsOf {service service' version version' request request' : String}
    {id id' : Option String} {subsets subsets' : List String} {mediaType mediaType' : Option String}
    (h : pairsOf service version request id subsets mediaType =
      pairsOf service' version' request' id' subsets' mediaType') :
    service = service' ∧ version = version' ∧ request = request' ∧ id = id' ∧
      subsets = subsets' ∧ mediaType = mediaType' := by
  have hvalues := fun key => congrArg (valuesOf key) h
  simp only [pairsOf, valuesOf_append, valuesOf_map] at hvalues
  refine ⟨?_, ?_, ?_, ?_, ?_, ?_⟩
  · simpa using hvalues "service"
  · simpa using hvalues "version"
  · simpa using hvalues "request"
  · simpa using congrArg List.head? (hvalues "coverageId")
  · simpa using hvalues "subset"
  · simpa using congrArg List.head? (hvalues "format")

theorem outputFormat_eq_ok_iff {r : ServiceRequest} {f : Option OutputFormat} :
    r.outputFormat = .ok f ↔ r.format?.map OutputFormat.ofName? = f.map some := by
  rw [outputFormat]
  cases r.format? with
  | none => cases f <;> simp
  | some name =>
    rw [map_eq_ok_iff]
    simp only [OutputFormat.known_eq_ok_iff]
    cases f <;> simp

section Valid

variable {r r' : ServiceRequest}

theorem exists_pairsOf (h : r.validate = .ok ()) (p : ServiceParams) :
    ∃ f : Option OutputFormat, r.format?.map OutputFormat.ofName? = f.map some ∧
      r.parameters p = .ok (pairsOf p.service p.version r.name r.coverageId?
        (r.subsets.map (String.ofList ∘ subsetChars)) (f.map OutputFormat.mediaType)) := by
  obtain ⟨_, hid, hrest⟩ := bind_eq_ok_iff.mp h
  obtain ⟨f, hformat, -⟩ := bind_eq_ok_iff.mp hrest
  refine ⟨f, outputFormat_eq_ok_iff.mp hformat, ?_⟩
  rw [parameters, hid, hformat]
  cases f <;> simp [pairsOf, bind, Except.bind, pure, Except.pure, Function.comp_def]

/-- Neither request names a format, or both name formats of the table with one media type. -/
def SameFormat (r r' : ServiceRequest) : Prop :=
  (r.format? = none ∧ r'.format? = none) ∨
    ∃ name name' f f', r.format? = some name ∧ r'.format? = some name' ∧
      OutputFormat.ofName? name = some f ∧ OutputFormat.ofName? name' = some f' ∧
      f.mediaType = f'.mediaType

theorem sameFormat_iff {f f' : Option OutputFormat}
    (h : r.format?.map OutputFormat.ofName? = f.map some)
    (h' : r'.format?.map OutputFormat.ofName? = f'.map some) :
    r.SameFormat r' ↔ f.map OutputFormat.mediaType = f'.map OutputFormat.mediaType := by
  unfold SameFormat
  cases hr : r.format? <;> cases hr' : r'.format? <;> cases f <;> cases f' <;> simp_all

/-- Two valid requests have the same parameters exactly if they are of one kind, ask for one
coverage, restrict the same axes to the same bounds, as far as these are written, and name formats
of one media type, all for the same service and version. -/
theorem parameters_eq_iff (h : r.validate = .ok ()) (h' : r'.validate = .ok ())
    (hsubsets : ∀ a ∈ r.subsets, a.WellFormed) (hsubsets' : ∀ a ∈ r'.subsets, a.WellFormed)
    (p p' : ServiceParams) :
    ∃ pairs pairs', r.parameters p = .ok pairs ∧ r'.parameters p' = .ok pairs' ∧
      (pairs = pairs' ↔ p.service = p'.service ∧ p.version = p'.version ∧ r.kind = r'.kind ∧
        r.coverageId? = r'.coverageId? ∧
        r.subsets.map AxisSubset.written = r'.subsets.map AxisSubset.written ∧
        r.SameFormat r') := by
  obtain ⟨f, hformat, hpairs⟩ := exists_pairsOf h p
  obtain ⟨f', hformat', hpairs'⟩ := exists_pairsOf h' p'
  refine ⟨_, _, hpairs, hpairs', ?_⟩
  have htexts : r.subsets.map (String.ofList ∘ subsetChars) =
      r'.subsets.map (String.ofList ∘ subsetChars) ↔
        r.subsets.map AxisSubset.written = r'.subsets.map AxisSubset.written := by
    rw [← List.map_map, ← List.map_map, List.map_inj_right fun _ _ => String.ofList_injective]
    exact map_subsetChars_eq_iff hsubsets hsubsets'
  rw [sameFormat_iff hformat hformat', ← htexts]
  constructor
  · intro heq
    obtain ⟨hservice, hversion, hname, hrest⟩ := eq_of_pairsOf heq
    exact ⟨hservice, hversion, RequestKind.name_injective hname, hrest⟩
  · rintro ⟨hservice, hversion, hkind, hid, htexts, hmediaType⟩
    rw [name, name, hservice, hversion, hkind, hid, htexts, hmediaType]

/-- Another endpoint, another name for a media type and a day without a month are not sent, and a
name with parentheses and commas is. -/
theorem parameters_eq_iff_jpeg :
    let request (date : DateLabel) (format : String) : ServiceRequest :=
      .coverage "A" [⟨"x(1,2)", .interval (.number (.int 1)) (.number (.int 2))⟩,
        ⟨"t", .point (.date date)⟩] (some format)
    let r := request ⟨2014, none, some 5⟩ "jpg"
    let r' := request ⟨2014, none, none⟩ "jpeg"
    r.validate = .ok () ∧ r'.validate = .ok () ∧
      (∀ a ∈ r.subsets, a.WellFormed) ∧ (∀ a ∈ r'.subsets, a.WellFormed) ∧
      ∃ pairs, r.parameters ⟨"http://h/ows", "WCS", "2.0.1"⟩ = .ok pairs ∧
        r'.parameters ⟨"http://i/ows", "WCS", "2.0.1"⟩ = .ok pairs := by
  intro request r r'
  have hvalid : r.validate = .ok () := by decide +kernel
  have hvalid' : r'.validate = .ok () := by decide +kernel
  have hformed : ∀ day : Option Nat, (∀ n, day = some n → DatePart.day.Allows n) →
      ∀ format, ∀ a ∈ (request ⟨2014, none, day⟩ format).subsets, a.WellFormed := by
    intro day hday format a ha
    have hname : ¬Blank "t" := by decide
    have hyear : DatePart.year.Allows 2014 := by decide
    simp only [request, subsets, List.mem_cons, List.not_mem_nil, or_false] at ha
    rcases ha with rfl | rfl
    · exact ⟨by decide, trivial, by decide, by simp [Bound.WellFormed]⟩
    · refine ⟨hname, trivial, by simp [Bound.IsFinite], ?_⟩
      rw [AxisRange.forall_bounds_point]
      exact ⟨hyear, nofun, hday⟩
  have hsubsets := hformed (some 5) (by rintro n ⟨⟩; decide) "jpg"
  have hsubsets' := hformed none nofun "jpeg"
  obtain ⟨pairs, pairs', hpairs, hpairs', hiff⟩ := parameters_eq_iff hvalid hvalid' hsubsets
    hsubsets' ⟨"http://h/ows", "WCS", "2.0.1"⟩ ⟨"http://i/ows", "WCS", "2.0.1"⟩
  have hsame : pairs = pairs' := by
    apply hiff.mpr
    refine ⟨rfl, rfl, rfl, rfl, rfl, .inr ⟨"jpg", "jpeg", .jpg, .jpeg, rfl, rfl, ?_, ?_, rfl⟩⟩
    · decide
    · decide
  exact ⟨hvalid, hvalid', hsubsets, hsubsets', pairs, hpairs, hsame ▸ hpairs'⟩

end Valid

end ServiceRequest

end CoverageQuery
