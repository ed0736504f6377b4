import CoverageQuery.Coverage
import CoverageQuery.Proofs.Axis.Parsing
import CoverageQuery.Proofs.Request.Parameters

/-!
# Subsets in brackets

The subsets of a coverage stand in brackets after its variable, with a comma and a space between
neighbours. No subset that was parsed is written with a comma, so the text in the brackets can be
cut there, and what is found is parsed as the subsets themselves.
-/

namespace CoverageQuery

namespace Text

/-- The texts between the occurrences of a comma with a space after it, of which there is always
one. -/
def listed : List Char → List (List Char)
  | [] => [[]]
  | ',' :: ' ' :: text => [] :: listed text
  | c :: text =>
    match listed text with
    | [] => [[c]]
    | item :: items => (c :: item) :: items

variable {front text : List Char}

theorem listed_cons_of_ne {c : Char} (hc : c ≠ ',') (text : List Char) :
    listed (c :: text) =
      match listed text with
      | [] => [[c]]
      | item :: items => (c :: item) :: items := by
  rw [listed]
  rintro rest rfl -
  exact hc rfl

theorem listed_of_not_mem (h : ',' ∉ text) : listed text = [text] := by
  induction text with
  | nil => rfl
  | cons c text ih =>
    rw [List.mem_cons, not_or] at h
    rw [listed_cons_of_ne (Ne.symm h.1), ih h.2]

theorem listed_append (h : ',' ∉ front) (rest : List Char) :
    listed (front ++ ',' :: ' ' :: rest) = front :: listed rest := by
  induction front with
  | nil => rfl
  | cons c front ih =>
    rw [List.mem_cons, not_or] at h
    rw [List.cons_append, listed_cons_of_ne (Ne.symm h.1), ih h.2]

/-- Texts without a comma are found again. -/
theorem listed_joined {texts : List (List Char)} (hne : texts ≠ []) (h : ∀ t ∈ texts, ',' ∉ t) :
    listed (joined [',', ' '] texts) = texts := by
  induction texts with
  | nil => exact absurd rfl hne
  | cons t texts ih =>
    rw [List.forall_mem_cons] at h
    cases texts with
    | nil => exact listed_of_not_mem h.1
    | cons t' texts =>
      rw [joined_cons_cons, List.append_assoc, List.cons_append, List.cons_append,
        List.nil_append, listed_append h.1, ih (List.cons_ne_nil _ _) h.2]

end Text

open Text

namespace AxisSubset

variable {a : AxisSubset} {axes : List AxisSubset} {texts : List String}

/-- Neither a word nor a bound has a comma. -/
theorem comma_not_mem_chars (ha : a.WellFormed) (h : a.Readable) : ',' ∉ a.chars := by
  have hname : ',' ∉ a.name.toList := by
    intro hmem
    exact absurd (h.1 _ hmem) (by decide)
  have hbound : ∀ b ∈ a.range.bounds, ',' ∉ b.chars := by
    intro b hb hmem
    exact absurd (Bound.forall_mark (ha.finite b hb) _ hmem) (by decide)
  have hrange : ',' ∉ a.range.chars := by
    cases hrange : a.range with
    | point b =>
      rw [hrange, AxisRange.forall_bounds_point] at hbound
      exact hbound
    | interval low high =>
      rw [hrange, AxisRange.forall_bounds_interval] at hbound
      simp [AxisRange.chars, hbound.1, hbound.2]
  simp [chars, hname, hrange]

/-- Subsets that were parsed are found in the text in the brackets, one by one and in order. -/
theorem map_parse_listed (h : texts.map parse = axes.map .ok) (hne : axes ≠ []) :
    (listed (joined [',', ' '] (axes.map chars))).map (fun item => parse (String.ofList item)) =
      texts.map parse := by
  have hparsed : ∀ a ∈ axes, a.WellFormed ∧ a.Readable := by
    intro a ha
    have hmem : .ok a ∈ texts.map parse := h ▸ List.mem_map_of_mem ha
    obtain ⟨text, -, htext⟩ := List.mem_map.mp hmem
    exact readable_of_parse htext
  have hcomma : ∀ t ∈ axes.map chars, ',' ∉ t := by
    rw [List.forall_mem_map]
    exact fun a ha => comma_not_mem_chars (hparsed a ha).1 (hparsed a ha).2
  have hread : ∀ a ∈ axes, parse (String.ofList a.chars) = .ok a :=
    fun a ha => parse_render (hparsed a ha).1 (hparsed a ha).2
  rw [listed_joined (mt List.map_eq_nil_iff.mp hne) hcomma, List.map_map, h]
  exact List.map_congr_left hread

end AxisSubset

end CoverageQuery
