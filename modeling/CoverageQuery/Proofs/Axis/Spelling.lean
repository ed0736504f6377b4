import CoverageQuery.Proofs.DateLabel.Spelling
import CoverageQuery.Proofs.Number.Spelling
import CoverageQuery.Proofs.Text.Word

/-!
# Written axis subsets

A spelling of an axis subset holds every character of its text: the name, the digits and signs of
its bounds and the white space between them. No text has two spellings. What is written for a
subset with a word for its name is a spelling of that subset, up to days that no month precedes.
-/

namespace CoverageQuery

open Text Axis

namespace Numeral

/-- A whole number is within 64 bits. -/
def Fits (n : Numeral) : Prop :=
  n.IsWhole → Int64.minValue.toInt ≤ n.wholeValue ∧ n.wholeValue ≤ Int64.maxValue.toInt

instance (n : Numeral) : Decidable n.Fits := inferInstanceAs (Decidable (_ → _))

/-- The number that the numeral denotes if it fits. -/
def number (n : Numeral) : Number :=
  if n.IsWhole then .int (Int64.ofInt n.wholeValue) else .float (.ofDecimal n.decimal)

theorem number?_eq_some_iff {n : Numeral} {x : Number} :
    n.number? = some x ↔ n.Fits ∧ n.number = x := by
  unfold number? number int64? Fits
  by_cases hwhole : n.IsWhole
  · by_cases hfits : Int64.minValue.toInt ≤ n.wholeValue ∧ n.wholeValue ≤ Int64.maxValue.toInt <;>
      simp [hwhole, hfits]
  · simp [hwhole]

end Numeral

@[simp] theorem AxisRange.forall_bounds_point {p : Bound → Prop} {b : Bound} :
    (∀ x ∈ (point b).bounds, p x) ↔ p b :=
  List.forall_mem_singleton

@[simp] theorem AxisRange.forall_bounds_interval {p : Bound → Prop} {low high : Bound} :
    (∀ x ∈ (interval low high).bounds, p x) ↔ p low ∧ p high := by
  rw [bounds, List.forall_mem_cons, List.forall_mem_singleton]

/-- A bound as it is written. -/
inductive BoundSpelling where
  | date (d : DateSpelling)
  | number (n : Numeral)
deriving DecidableEq

namespace BoundSpelling

def chars : BoundSpelling → List Char
  | date d => d.chars
  | number n => n.chars

def WellFormed : BoundSpelling → Prop
  | date d => d.WellFormed
  | number n => n.WellFormed ∧ n.Fits

def value : BoundSpelling → Bound
  | date d => .date d.label
  | number n => .number n.number

/-- Bounds begin with a quote, a minus or a digit. -/
def Starts (c : Char) : Prop := c = '"' ∨ Numeral.Starts c

instance : DecidablePred Starts := fun _ => inferInstanceAs (Decidable (_ ∨ _))

theorem WellFormed.begins {b : BoundSpelling} (h : b.WellFormed) : Begins Starts b.chars := by
  cases b with
  | date d => exact ⟨'"', _, rfl, .inl rfl⟩
  | number n => exact h.1.begins.imp fun _ => .inr

theorem not_isGap_of_starts {c : Char} (h : Starts c) : isGap c = false := by
  cases hgap : isGap c with
  | false => rfl
  | true =>
    simp only [isGap, Bool.or_eq_true, beq_iff_eq] at hgap
    rcases hgap with ((rfl | rfl) | rfl) | rfl <;> exact absurd h (by decide)

theorem recovers_chars {a b : BoundSpelling} (ha : a.WellFormed) (hb : b.WellFormed) :
    Recovers Numeral.Stops a.chars b.chars (a = b) := by
  have hquote : ∀ c, '"' = c → ¬Numeral.Starts c := by
    rintro c rfl
    decide
  cases a with
  | date c =>
    cases b with
    | date d =>
      refine ((DateSpelling.recovers_chars ha.1 hb.1).restrict fun _ _ => trivial).imp ?_
      exact congrArg date
    | number n => exact .of_begins ⟨'"', _, rfl, rfl⟩ hb.1.begins hquote
  | number m =>
    cases b with
    | date d => exact .of_begins ha.1.begins ⟨'"', _, rfl, rfl⟩ fun c hc hq => hquote c hq hc
    | number n => exact (Numeral.recovers_chars ha.1 hb.1).imp (congrArg number)

theorem not_orphanDay_value {b : BoundSpelling} {d : DateLabel} (h : b.value = .date d) :
    ¬d.OrphanDay := by
  cases b with
  | date s => exact Bound.date.inj h ▸ s.not_orphanDay_label
  | number n => cases h

theorem WellFormed.value {b : BoundSpelling} (h : b.WellFormed) : b.value.WellFormed := by
  cases b with
  | date d => exact h.2
  | number n => trivial

end BoundSpelling

/-- A bound between white space. -/
structure SpacedBound where
  before : List Char
  bound : BoundSpelling
  after : List Char
deriving DecidableEq

namespace SpacedBound

def chars (b : SpacedBound) : List Char := b.before ++ (b.bound.chars ++ b.after)

structure WellFormed (b : SpacedBound) : Prop where
  before : Gap b.before
  bound : b.bound.WellFormed
  after : Gap b.after

/-- A bound ends at a colon or at the closing parenthesis. -/
def Ends (c : Char) : Prop := c = ':' ∨ c = ')'

instance : DecidablePred Ends := fun _ => inferInstanceAs (Decidable (_ ∨ _))

theorem not_isGap_of_ends {c : Char} (h : Ends c) : isGap c = false := by
  rcases h with rfl | rfl <;> decide

theorem stops_of_ends {c : Char} (h : Ends c) : Numeral.Stops c := by
  rcases h with rfl | rfl <;> decide

theorem stops_of_isGap {c : Char} (h : isGap c = true) : Numeral.Stops c := by
  simp only [isGap, Bool.or_eq_true, beq_iff_eq] at h
  rcases h with ((rfl | rfl) | rfl) | rfl <;> decide

/-- White space and then the end of the bound: nothing of it belongs to a numeral. -/
theorem opens_stops {gap rest : List Char} (hgap : Gap gap) (hrest : Opens Ends rest) :
    Opens Numeral.Stops (gap ++ rest) :=
  opens_append (fun c hc => stops_of_isGap (hgap c hc)) (hrest.imp fun _ => stops_of_ends)

theorem recovers_chars {a b : SpacedBound} (ha : a.WellFormed) (hb : b.WellFormed) :
    Recovers Ends a.chars b.chars (a = b) := by
  intro s t hs ht heq
  have hnogap : ∀ {c : SpacedBound}, c.WellFormed → ∀ rest,
      Opens (isGap · = false) (c.bound.chars ++ rest) := fun hc rest =>
    (hc.bound.begins.append rest).opens.imp fun _ => BoundSpelling.not_isGap_of_starts
  simp only [chars, List.append_assoc] at heq
  obtain ⟨hbefore, heq⟩ := recovers_run ha.before hb.before _ _ (hnogap ha _) (hnogap hb _) heq
  obtain ⟨hbound, heq⟩ := BoundSpelling.recovers_chars ha.bound hb.bound _ _
    (opens_stops ha.after hs) (opens_stops hb.after ht) heq
  obtain ⟨hafter, hst⟩ := recovers_run ha.after hb.after s t
    (hs.imp fun _ => not_isGap_of_ends) (ht.imp fun _ => not_isGap_of_ends) heq
  cases a
  cases b
  cases hbefore
  cases hbound
  cases hafter
  exact ⟨rfl, hst⟩

end SpacedBound

/-- What stands between the parentheses. -/
structure RangeSpelling where
  low : SpacedBound
  high : Option SpacedBound
deriving DecidableEq

namespace RangeSpelling

def highChars : Option SpacedBound → List Char
  | none => []
  | some b => ':' :: b.chars

def chars (r : RangeSpelling) : List Char := r.low.chars ++ highChars r.high

structure WellFormed (r : RangeSpelling) : Prop where
  low : r.low.WellFormed
  high : ∀ b, r.high = some b → b.WellFormed

def range (r : RangeSpelling) : AxisRange :=
  match r.high with
  | none => .point r.low.bound.value
  | some b => .interval r.low.bound.value b.bound.value

theorem opens_highChars (high : Option SpacedBound) (rest : List Char) :
    Opens SpacedBound.Ends (highChars high ++ ')' :: rest) := by
  cases high with
  | none => exact (opens_cons _ _ _).mpr (.inr rfl)
  | some b => exact (opens_cons _ _ _).mpr (.inl rfl)

/-- Up to the closing parenthesis a range has one spelling. -/
theorem eq_of_chars_append {a b : RangeSpelling} (ha : a.WellFormed) (hb : b.WellFormed)
    {s t : List Char} (heq : a.chars ++ ')' :: s = b.chars ++ ')' :: t) : a = b ∧ s = t := by
  obtain ⟨low, high⟩ := a
  obtain ⟨low', high'⟩ := b
  simp only [chars, List.append_assoc] at heq
  obtain ⟨hlow, hafter⟩ := SpacedBound.recovers_chars ha.low hb.low _ _
    (opens_highChars high s) (opens_highChars high' t) heq
  cases hlow
  cases high with
  | none =>
    cases high' with
    | none => exact ⟨rfl, (List.cons.inj hafter).2⟩
    | some b => exact absurd (List.cons.inj hafter).1 (by decide)
  | some a =>
    cases high' with
    | none => exact absurd (List.cons.inj hafter).1 (by decide)
    | some b =>
      obtain ⟨hhigh, hrest⟩ := (SpacedBound.recovers_chars (ha.high a rfl) (hb.high b rfl)).before
        (.inr rfl) (List.cons.inj hafter).2
      cases hhigh
      exact ⟨rfl, hrest⟩

/-- What holds of the value of every bound that is spelled holds of every bound of the range. -/
theorem WellFormed.forall_bounds {r : RangeSpelling} (h : r.WellFormed) {p : Bound → Prop}
    (hp : ∀ b : BoundSpelling, b.WellFormed → p b.value) : ∀ b ∈ r.range.bounds, p b := by
  obtain ⟨low, high⟩ := r
  have hlow := hp low.bound h.low.bound
  cases high with
  | none => exact AxisRange.forall_bounds_point.mpr hlow
  | some b => exact AxisRange.forall_bounds_interval.mpr ⟨hlow, hp b.bound (h.high b rfl).bound⟩

end RangeSpelling

/-- An axis subset as it is written, with white space wherever it may stand. -/
structure SubsetSpelling where
  name : List Char
  gap : List Char
  range : RangeSpelling
  tail : List Char
deriving DecidableEq

namespace SubsetSpelling

def chars (s : SubsetSpelling) : List Char :=
  s.name ++ (s.gap ++ '(' :: (s.range.chars ++ ')' :: s.tail))

structure WellFormed (s : SubsetSpelling) : Prop where
  name : Word s.name
  gap : Gap s.gap
  range : s.range.WellFormed
  tail : Gap s.tail

/-- The subset that is denoted, its bounds not yet checked against each other. -/
def subset (s : SubsetSpelling) : AxisSubset := ⟨String.ofList s.name, s.range.range⟩

theorem opens_gap {gap : List Char} (hgap : Gap gap) (rest : List Char) :
    Opens (isWordChar · = false) (gap ++ '(' :: rest) :=
  opens_append (fun c hc => isWordChar_of_isGap (hgap c hc)) ((opens_cons _ _ _).mpr (by decide))

theorem recovers_chars {a b : SubsetSpelling} (ha : a.WellFormed) (hb : b.WellFormed) :
    Recovers (isGap · = false) a.chars b.chars (a = b) := by
  intro s t hs ht heq
  simp only [chars, List.append_assoc, List.cons_append] at heq
  obtain ⟨hname, heq⟩ := recovers_run ha.name.2 hb.name.2 _ _ (opens_gap ha.gap _)
    (opens_gap hb.gap _) heq
  obtain ⟨hgap, heq⟩ := (recovers_run ha.gap hb.gap).before (by decide) heq
  obtain ⟨hrange, heq⟩ := RangeSpelling.eq_of_chars_append ha.range hb.range heq
  obtain ⟨htail, hst⟩ := recovers_run ha.tail hb.tail s t hs ht heq
  cases a
  cases b
  cases hname
  cases hgap
  cases hrange
  cases htail
  exact ⟨rfl, hst⟩

end SubsetSpelling

namespace Bound

/-- The bound as far as it is written. -/
def written : Bound → Bound
  | number n => number n
  | date d => date d.written

def OrphanDay : Bound → Prop
  | number _ => False
  | date d => d.OrphanDay

instance : DecidablePred OrphanDay
  | number _ => isFalse id
  | date d => inferInstanceAs (Decidable d.OrphanDay)

@[simp] theorem chars_written (b : Bound) : b.written.chars = b.chars := by
  cases b with
  | number n => rfl
  | date d => exact d.chars_written

theorem written_eq_self {b : Bound} (h : ¬b.OrphanDay) : b.written = b := by
  cases b with
  | number n => rfl
  | date d => exact congrArg date (DateLabel.written_eq_self h)

theorem exists_spelling {b : Bound} (hfinite : b.IsFinite) (hformed : b.WellFormed) :
    ∃ s : BoundSpelling, s.WellFormed ∧ s.chars = b.chars ∧ s.value = b.written := by
  cases b with
  | number x =>
    obtain ⟨n, hn, hchars, hvalue⟩ := Number.exists_numeral hfinite
    obtain ⟨hfits, hnumber⟩ := Numeral.number?_eq_some_iff.mp hvalue
    exact ⟨.number n, ⟨hn, hfits⟩, hchars, congrArg number hnumber⟩
  | date d =>
    obtain ⟨s, hs, hchars, hlabel⟩ := DateLabel.exists_spelling hformed
    exact ⟨.date s, hs, hchars, congrArg date hlabel⟩

end Bound

namespace AxisRange

/-- The range as far as it is written. -/
def written : AxisRange → AxisRange
  | point b => point b.written
  | interval low high => interval low.written high.written

@[simp] theorem chars_written (r : AxisRange) : r.written.chars = r.chars := by
  cases r <;> simp [written, chars]

theorem written_eq_self {r : AxisRange} (h : ∀ b ∈ r.bounds, ¬b.OrphanDay) : r.written = r := by
  cases r with
  | point b =>
    rw [forall_bounds_point] at h
    rw [written, Bound.written_eq_self h]
  | interval low high =>
    rw [forall_bounds_interval] at h
    rw [written, Bound.written_eq_self h.1, Bound.written_eq_self h.2]

theorem exists_spelling {r : AxisRange} (hfinite : ∀ b ∈ r.bounds, b.IsFinite)
    (hformed : ∀ b ∈ r.bounds, b.WellFormed) :
    ∃ s : RangeSpelling, s.WellFormed ∧ s.chars = r.chars ∧ s.range = r.written := by
  have hspaced : ∀ s : BoundSpelling, s.WellFormed → SpacedBound.WellFormed ⟨[], s, []⟩ :=
    fun s hs => ⟨gap_nil, hs, gap_nil⟩
  cases r with
  | point b =>
    rw [forall_bounds_point] at hfinite hformed
    obtain ⟨s, hs, hchars, hvalue⟩ := Bound.exists_spelling hfinite hformed
    refine ⟨⟨⟨[], s, []⟩, none⟩, ⟨hspaced s hs, nofun⟩, ?_, ?_⟩
    · simp [RangeSpelling.chars, RangeSpelling.highChars, SpacedBound.chars, chars, hchars]
    · exact congrArg point hvalue
  | interval low high =>
    rw [forall_bounds_interval] at hfinite hformed
    obtain ⟨s, hs, hlow, hlowValue⟩ := Bound.exists_spelling hfinite.1 hformed.1
    obtain ⟨t, ht, hhigh, hhighValue⟩ := Bound.exists_spelling hfinite.2 hformed.2
    refine ⟨⟨⟨[], s, []⟩, some ⟨[], t, []⟩⟩, ⟨hspaced s hs, ?_⟩, ?_, ?_⟩
    · rintro _ ⟨⟩
      exact hspaced t ht
    · simp [RangeSpelling.chars, RangeSpelling.highChars, SpacedBound.chars, chars, hlow, hhigh]
    · simp [RangeSpelling.range, written, hlowValue, hhighValue]

end AxisRange

namespace AxisSubset

/-- The subset as far as it is written. -/
def written (a : AxisSubset) : AxisSubset := { a with range := a.range.written }

/-- The name is a word and every bound can be written. -/
structure Legible (a : AxisSubset) : Prop where
  name : Word a.name.toList
  finite : ∀ b ∈ a.range.bounds, b.IsFinite
  dates : ∀ b ∈ a.range.bounds, b.WellFormed

@[simp] theorem chars_written (a : AxisSubset) : a.written.chars = a.chars := by
  simp [written, chars]

theorem written_eq_self {a : AxisSubset} (h : ∀ b ∈ a.range.bounds, ¬b.OrphanDay) :
    a.written = a := by
  rw [written, AxisRange.written_eq_self h]

theorem Legible.begins {a : AxisSubset} (h : a.Legible) :
    Begins (isWordChar · = true) a.chars := by
  rw [chars, List.append_assoc]
  exact h.name.begins.append _

theorem exists_spelling {a : AxisSubset} (h : a.Legible) :
    ∃ s : SubsetSpelling, s.WellFormed ∧ s.chars = a.chars ∧ s.subset = a.written := by
  obtain ⟨r, hr, hchars, hrange⟩ := AxisRange.exists_spelling h.finite h.dates
  refine ⟨⟨a.name.toList, [], r, []⟩, ⟨h.name, gap_nil, hr, gap_nil⟩, ?_, ?_⟩
  · simp [SubsetSpelling.chars, chars, hchars]
  · simp [SubsetSpelling.subset, written, hrange]

/-- An axis subset can be read back in front of anything but white space. -/
theorem recovers_chars {a b : AxisSubset} (ha : a.Legible) (hb : b.Legible) :
    Recovers (isGap · = false) a.chars b.chars (a.written = b.written) := by
  obtain ⟨s, hs, hschars, hsvalue⟩ := exists_spelling ha
  obtain ⟨t, ht, htchars, htvalue⟩ := exists_spelling hb
  rw [← hschars, ← htchars]
  refine (SubsetSpelling.recovers_chars hs ht).imp ?_
  rintro rfl
  exact hsvalue.symm.trans htvalue

end AxisSubset

end CoverageQuery
