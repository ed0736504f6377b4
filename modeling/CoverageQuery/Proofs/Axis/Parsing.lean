import CoverageQuery.Proofs.Axis.Reading

/-!
# Parsing axis subsets

A text is read as its one spelling or not at all, and a spelling is refused only for bounds of two
kinds or for a float beyond all finite ones. Parsing undoes rendering exactly where the name is a
word and no day stands without a month.
-/

namespace CoverageQuery

open Text Axis

namespace Bound

theorem sameValue_self {b : Bound} (h : b.IsFinite) : b.sameValue b = true := by
  cases b with
  | date d => exact beq_self_eq_true d
  | number x =>
    cases x with
    | int n => exact beq_self_eq_true n
    | float f =>
      cases f with
      | nan => exact absurd h Binary64.not_isFinite_nan
      | infinite negative => exact absurd h (Binary64.not_isFinite_infinite negative)
      | finite negative rank => simp [sameValue, Number.sameValue, Binary64.sameValue]

theorem orphanDay_of_sameValue {a b : Bound} (h : a.sameValue b = true) (hb : b.OrphanDay) :
    a.OrphanDay := by
  cases a with
  | number m =>
    cases b with
    | number n => exact hb
    | date d => cases h
  | date c =>
    cases b with
    | number n => cases h
    | date d => exact eq_of_beq h ▸ hb

end Bound

namespace AxisRange

theorem sameValue_self {r : AxisRange} (h : ∀ b ∈ r.bounds, b.IsFinite) :
    r.sameValue r = true := by
  cases r with
  | point b => exact Bound.sameValue_self (forall_bounds_point.mp h)
  | interval low high =>
    rw [forall_bounds_interval] at h
    rw [sameValue, Bound.sameValue_self h.1, Bound.sameValue_self h.2, Bool.and_self]

theorem not_orphanDay_of_sameValue {q r : AxisRange} (h : q.sameValue r = true)
    (hq : ∀ b ∈ q.bounds, ¬b.OrphanDay) : ∀ b ∈ r.bounds, ¬b.OrphanDay := by
  cases q with
  | point a =>
    cases r with
    | point b =>
      rw [forall_bounds_point] at hq ⊢
      exact mt (Bound.orphanDay_of_sameValue h) hq
    | interval low high => cases h
  | interval low high =>
    cases r with
    | point b => cases h
    | interval low' high' =>
      rw [sameValue, Bool.and_eq_true] at h
      rw [forall_bounds_interval] at hq ⊢
      exact ⟨mt (Bound.orphanDay_of_sameValue h.1) hq.1,
        mt (Bound.orphanDay_of_sameValue h.2) hq.2⟩

end AxisRange

namespace AxisSubset

/-- What the constructors and renaming accept, for dates that were accepted themselves. -/
inductive Built : AxisSubset → Prop
  | made {name : String} {range : AxisRange} {a : AxisSubset}
      (dates : ∀ b ∈ range.bounds, b.WellFormed) (h : ofRange name range = .ok a) : Built a
  | renamed {a b : AxisSubset} {name : String} (ha : Built a) (h : a.rename name = .ok b) : Built b

theorem ofRange_eq_ok_iff {name : String} {range : AxisRange} {a : AxisSubset} :
    ofRange name range = .ok a ↔
      ¬Blank name ∧ range.Uniform ∧ (∀ b ∈ range.bounds, b.IsFinite) ∧ a = ⟨name, range⟩ := by
  unfold ofRange
  constructor
  · intro h
    split at h
    · cases h
    · next hname =>
      split at h
      · cases h
      · next huniform =>
        split at h
        · next hfinite =>
          cases h
          exact ⟨hname, Decidable.not_not.mp huniform, hfinite, rfl⟩
        · cases h
  · rintro ⟨hname, huniform, hfinite, rfl⟩
    rw [if_neg hname, if_neg (not_not_intro huniform), if_pos hfinite]

theorem wellFormed_of_ofRange {name : String} {range : AxisRange} {a : AxisSubset}
    (hdates : ∀ b ∈ range.bounds, b.WellFormed) (h : ofRange name range = .ok a) :
    a.WellFormed := by
  obtain ⟨hname, huniform, hfinite, rfl⟩ := ofRange_eq_ok_iff.mp h
  exact ⟨hname, huniform, hfinite, hdates⟩

theorem WellFormed.rename {a b : AxisSubset} {name : String} (ha : a.WellFormed)
    (h : a.rename name = .ok b) : b.WellFormed := by
  unfold AxisSubset.rename at h
  split at h
  · cases h
  · next hname =>
    cases h
    exact ⟨hname, ha.uniform, ha.finite, ha.dates⟩

theorem Built.wellFormed {a : AxisSubset} (h : a.Built) : a.WellFormed := by
  induction h with
  | made dates h => exact wellFormed_of_ofRange dates h
  | renamed ha h ih => exact ih.rename h

end AxisSubset

namespace SubsetSpelling

/-- The text, white space at its ends aside, is spelled so. -/
def Reads (s : SubsetSpelling) (text : String) : Prop :=
  s.WellFormed ∧ s.chars = trim text.toList

/-- A float among the bounds is beyond all finite ones. -/
def Overflows (s : SubsetSpelling) : Prop :=
  ∃ negative, Bound.number (.float (.infinite negative)) ∈ s.subset.range.bounds

theorem Reads.unique {r s : SubsetSpelling} {text : String} (hr : r.Reads text)
    (hs : s.Reads text) : r = s := by
  have heq : r.chars ++ [] = s.chars ++ [] := by rw [hr.2, hs.2]
  exact (recovers_chars hr.1 hs.1 [] [] (opens_nil _) (opens_nil _) heq).1

theorem WellFormed.not_blank {s : SubsetSpelling} (h : s.WellFormed) : ¬Blank s.subset.name :=
  h.name.not_blank

theorem not_isFinite_value_iff (b : BoundSpelling) :
    ¬b.value.IsFinite ↔ ∃ negative, b.value = .number (.float (.infinite negative)) := by
  constructor
  · intro h
    cases b with
    | date d => exact absurd trivial h
    | number n =>
      simp only [BoundSpelling.value, Numeral.number] at h ⊢
      by_cases hwhole : n.IsWhole
      · rw [if_pos hwhole] at h
        exact absurd trivial h
      · obtain ⟨rank, hrank⟩ :=
          Binary64.exists_rank_ofDecimal n.decimal.digits n.decimal.exponent
        have hvalue : Binary64.ofDecimal n.decimal = .ofRank n.decimal.negative rank := hrank _
        rw [if_neg hwhole, hvalue] at h ⊢
        unfold Binary64.ofRank at h ⊢
        split at h
        · exact absurd trivial h
        · next hrange =>
          rw [dif_neg hrange]
          exact ⟨n.decimal.negative, rfl⟩
  · rintro ⟨negative, h⟩
    rw [h]
    exact Binary64.not_isFinite_infinite negative

/-- A bound that is not finite overflows: no numeral denotes what is not a number. -/
theorem WellFormed.overflows_iff {s : SubsetSpelling} (h : s.WellFormed) :
    s.Overflows ↔ ¬∀ b ∈ s.subset.range.bounds, b.IsFinite := by
  constructor
  · rintro ⟨negative, hmem⟩ hall
    exact Binary64.not_isFinite_infinite negative (hall _ hmem)
  · intro hsome
    have hbound := h.range.forall_bounds (p := fun b => ¬b.IsFinite →
      ∃ negative, b = .number (.float (.infinite negative)))
      fun b _ => (not_isFinite_value_iff b).mp
    obtain ⟨b, hmem, hb⟩ : ∃ b ∈ s.subset.range.bounds, ¬b.IsFinite := by
      simpa using hsome
    obtain ⟨negative, rfl⟩ := hbound b hmem hb
    exact ⟨negative, hmem⟩

end SubsetSpelling

namespace AxisSubset

theorem parse_of_reads {text : String} {s : SubsetSpelling} (h : s.Reads text) :
    parse text = ofRange s.subset.name s.subset.range := by
  have hread : complete readSubset (trim text.toList) = .ok (s.subset.name, s.subset.range) :=
    complete_readSubset_eq_ok_iff.mpr ⟨s, h.1, h.2, rfl⟩
  simp only [parse, hread, bind, Except.bind]

theorem parse_accepted {text : String} {s : SubsetSpelling} (h : s.Reads text)
    (huniform : s.subset.range.Uniform) (hfinite : ∀ b ∈ s.subset.range.bounds, b.IsFinite) :
    parse text = .ok s.subset := by
  rw [parse_of_reads h]
  exact ofRange_eq_ok_iff.mpr ⟨h.1.not_blank, huniform, hfinite, rfl⟩

theorem parse_mixed {text : String} {s : SubsetSpelling} (h : s.Reads text)
    (hmixed : ¬s.subset.range.Uniform) : parse text = .error .mismatchedBounds := by
  rw [parse_of_reads h, ofRange, if_neg h.1.not_blank, if_pos hmixed]

theorem parse_overflowing {text : String} {s : SubsetSpelling} (h : s.Reads text)
    (huniform : s.subset.range.Uniform) (hoverflow : s.Overflows) :
    parse text = .error (.invalidAxis (.nonFinite s.subset.name)) := by
  rw [parse_of_reads h, ofRange, if_neg h.1.not_blank, if_neg (not_not_intro huniform),
    if_neg (h.1.overflows_iff.mp hoverflow)]

theorem parse_unreadable {text : String} (h : ∀ s : SubsetSpelling, ¬s.Reads text) :
    ∃ error, parse text = .error (.unreadable error) := by
  cases hread : complete readSubset (trim text.toList) with
  | ok value =>
    obtain ⟨s, hs, hchars, -⟩ := complete_readSubset_eq_ok_iff.mp hread
    exact absurd ⟨hs, hchars⟩ (h s)
  | error e =>
    obtain ⟨error, rfl⟩ := eq_unreadable_of_complete hread
    refine ⟨error, ?_⟩
    simp only [parse, hread, bind, Except.bind]

/-- What becomes of a text, and what about its reading decides it. -/
inductive Outcome (text : String) : Except QueryError AxisSubset → Prop
  | accepted {s : SubsetSpelling} (reads : s.Reads text) (uniform : s.subset.range.Uniform)
      (finite : ∀ b ∈ s.subset.range.bounds, b.IsFinite) : Outcome text (.ok s.subset)
  | mixed {s : SubsetSpelling} (reads : s.Reads text) (mixed : ¬s.subset.range.Uniform) :
      Outcome text (.error .mismatchedBounds)
  | overflowing {s : SubsetSpelling} (reads : s.Reads text) (uniform : s.subset.range.Uniform)
      (overflows : s.Overflows) : Outcome text (.error (.invalidAxis (.nonFinite s.subset.name)))
  | unreadable {error : ReadError} (unread : ∀ s : SubsetSpelling, ¬s.Reads text) :
      Outcome text (.error (.unreadable error))

theorem outcome_parse (text : String) : Outcome text (parse text) := by
  by_cases hreads : ∃ s : SubsetSpelling, s.Reads text
  · obtain ⟨s, hs⟩ := hreads
    by_cases huniform : s.subset.range.Uniform
    · by_cases hfinite : ∀ b ∈ s.subset.range.bounds, b.IsFinite
      · rw [parse_accepted hs huniform hfinite]
        exact .accepted hs huniform hfinite
      · have hoverflow := hs.1.overflows_iff.mpr hfinite
        rw [parse_overflowing hs huniform hoverflow]
        exact .overflowing hs huniform hoverflow
    · rw [parse_mixed hs huniform]
      exact .mixed hs huniform
  · have hunread : ∀ s : SubsetSpelling, ¬s.Reads text := fun s hs => hreads ⟨s, hs⟩
    obtain ⟨error, herror⟩ := parse_unreadable hunread
    rw [herror]
    exact .unreadable hunread

/-- Every character of the name is a word character and no day stands without a month. -/
def Readable (a : AxisSubset) : Prop :=
  (∀ c ∈ a.name.toList, isWordChar c = true) ∧ ∀ b ∈ a.range.bounds, ¬b.OrphanDay

theorem trim_chars {a : AxisSubset} (h : a.Legible) : trim a.chars = a.chars := by
  refine trim_eq_self (h.begins.opens.imp fun _ => isBlank_of_isWordChar) ?_
  rw [chars, List.reverse_append]
  exact (opens_cons _ _ _).mpr (by decide)

theorem legible_of_readable {a : AxisSubset} (ha : a.WellFormed) (h : a.Readable) :
    a.Legible := by
  refine ⟨⟨fun hnil => ha.name ?_, h.1⟩, ha.finite, ha.dates⟩
  rw [Blank, hnil]
  exact nofun

/-- What can be read is read back as it was. -/
theorem parse_render {a : AxisSubset} (ha : a.WellFormed) (h : a.Readable) :
    parse a.render = .ok a := by
  have hlegible := legible_of_readable ha h
  obtain ⟨s, hs, hchars, hsubset⟩ := exists_spelling hlegible
  rw [written_eq_self h.2] at hsubset
  subst hsubset
  have hreads : s.Reads s.subset.render := by
    refine ⟨hs, ?_⟩
    rw [render, String.toList_ofList, trim_chars hlegible, hchars]
  exact parse_accepted hreads ha.uniform ha.finite

/-- Whatever is parsed is well-formed and can be read again. -/
theorem readable_of_parse {text : String} {a : AxisSubset} (h : parse text = .ok a) :
    a.WellFormed ∧ a.Readable := by
  have houtcome := outcome_parse text
  rw [h] at houtcome
  cases houtcome with
  | @accepted s hs huniform hfinite =>
    have hdates := hs.1.range.forall_bounds fun b hb => hb.value
    refine ⟨⟨hs.1.not_blank, huniform, hfinite, hdates⟩, ?_, ?_⟩
    · rw [SubsetSpelling.subset, String.toList_ofList]
      exact hs.1.name.2
    · refine hs.1.range.forall_bounds fun b _ horphan => ?_
      cases hvalue : b.value with
      | number n =>
        rw [hvalue] at horphan
        exact horphan
      | date d =>
        rw [hvalue] at horphan
        exact b.not_orphanDay_value hvalue horphan

theorem readable_of_sameValue {a b : AxisSubset} (h : a.sameValue b = true) (ha : a.Readable) :
    b.Readable := by
  rw [sameValue, Bool.and_eq_true] at h
  refine ⟨eq_of_beq h.1 ▸ ha.1, ?_⟩
  exact AxisRange.not_orphanDay_of_sameValue h.2 ha.2

/-- Rendering and parsing are inverse exactly on what can be read, and all that is parsed can. -/
theorem parse_render_iff :
    (∀ x : AxisSubset, x.Built →
      ((∃ y, parse x.render = .ok y ∧ y.sameValue x = true ∧ y.render = x.render) ↔
        x.Readable) ∧ (parse x.render = .ok x ↔ x.Readable)) ∧
    ∀ text y, parse text = .ok y → y.Readable ∧ parse y.render = .ok y := by
  refine ⟨fun x hx => ⟨⟨?_, fun h => ?_⟩, fun h => (readable_of_parse h).2,
    parse_render hx.wellFormed⟩, fun text y h => ?_⟩
  · rintro ⟨y, hparse, hsame, -⟩
    exact readable_of_sameValue hsame (readable_of_parse hparse).2
  · refine ⟨x, parse_render hx.wellFormed h, ?_, rfl⟩
    rw [sameValue, AxisRange.sameValue_self hx.wellFormed.finite, beq_self_eq_true]
    rfl
  · obtain ⟨hformed, hreadable⟩ := readable_of_parse h
    exact ⟨hreadable, parse_render hformed hreadable⟩

/-- A month is read back, and so is a number that was found between white space. -/
theorem parse_render_iff_month :
    parse (render ⟨"time", .point (.date ⟨2014, some 7, none⟩)⟩) =
      .ok ⟨"time", .point (.date ⟨2014, some 7, none⟩)⟩ ∧
    parse (render ⟨"h", .point (.number (.int 5))⟩) = .ok ⟨"h", .point (.number (.int 5))⟩ := by
  have hbuilt : Built ⟨"time", .point (.date ⟨2014, some 7, none⟩)⟩ := by
    have hdates : ∀ b ∈ (AxisRange.point (.date ⟨2014, some 7, none⟩)).bounds, b.WellFormed := by
      rw [AxisRange.forall_bounds_point]
      refine ⟨by decide, ?_, ?_⟩
      · rintro _ ⟨⟩
        decide
      · rintro _ ⟨⟩
    have haccepted : ofRange "time" (.point (.date ⟨2014, some 7, none⟩)) =
        .ok ⟨"time", .point (.date ⟨2014, some 7, none⟩)⟩ := rfl
    exact .made hdates haccepted
  have hreadable : Readable ⟨"time", .point (.date ⟨2014, some 7, none⟩)⟩ := by
    unfold Readable
    decide
  have hparse : parse "h ( 5 )" = .ok ⟨"h", .point (.number (.int 5))⟩ := rfl
  exact ⟨(parse_render_iff.1 _ hbuilt).2.mpr hreadable, (parse_render_iff.2 _ _ hparse).2⟩

end AxisSubset

end CoverageQuery
