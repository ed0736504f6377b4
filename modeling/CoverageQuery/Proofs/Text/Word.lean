import CoverageQuery.Axis.Reader
import CoverageQuery.Proofs.Text.Recovery

/-!
# Words, gaps and white space

No word character is white space, and a gap inside an axis subset is white space. A text that
neither begins nor ends with white space is left alone when it is trimmed.
-/

namespace CoverageQuery

namespace Text

/-- What holds of every place in every range of a table holds of whatever is found there. -/
theorem forall_inRanges {p : Nat → Prop} {ranges : List (Nat × Nat)} {point : Nat}
    (h : ∀ r ∈ ranges, ∀ k ≤ r.2 - r.1, p (r.1 + k)) (hpoint : inRanges ranges point = true) :
    p point := by
  induction ranges with
  | nil => cases hpoint
  | cons r ranges ih =>
    obtain ⟨low, high⟩ := r
    rw [List.forall_mem_cons] at h
    rw [inRanges_cons] at hpoint
    split at hpoint
    · next hhigh =>
      have hlow := of_decide_eq_true hpoint
      have hplace := h.1 (point - low) (by simp only; omega)
      rwa [Nat.add_sub_cancel' hlow] at hplace
    · exact ih h.2 hpoint

theorem blank_not_word :
    ∀ r ∈ blankRanges, ∀ k ≤ r.2 - r.1, isWordChar (Char.ofNat (r.1 + k)) = false := by
  decide +kernel

theorem isBlank_of_isWordChar {c : Char} (h : isWordChar c = true) : isBlank c = false := by
  rw [Bool.eq_false_iff]
  intro hblank
  have hword : isWordChar (Char.ofNat c.toNat) = false :=
    forall_inRanges (p := fun n => isWordChar (Char.ofNat n) = false) blank_not_word hblank
  rw [Char.ofNat_toNat, h] at hword
  cases hword

/-- One or more word characters. -/
def Word (text : List Char) : Prop := text ≠ [] ∧ ∀ c ∈ text, isWordChar c = true

instance (text : List Char) : Decidable (Word text) := inferInstanceAs (Decidable (_ ∧ _))

theorem Word.begins {text : List Char} (h : Word text) : Begins (isWordChar · = true) text :=
  begins_of_forall h.1 h.2

theorem Word.not_blank {text : List Char} (h : Word text) : ¬Blank (String.ofList text) := by
  obtain ⟨c, rest, rfl, hc⟩ := h.begins
  intro hblank
  have := hblank c (by simp)
  rw [isBlank_of_isWordChar hc] at this
  cases this

theorem trim_eq_self {text : List Char} (hfront : Opens (isBlank · = false) text)
    (hback : Opens (isBlank · = false) text.reverse) : trim text = text := by
  have keep : ∀ t : List Char, Opens (isBlank · = false) t → t.dropWhile isBlank = t := by
    intro t ht
    have hkept : ([] ++ t).dropWhile isBlank = t := dropWhile_run nofun ht
    exact hkept
  rw [trim, keep text hfront, keep _ hback, List.reverse_reverse]

end Text

namespace Axis

/-- White space of an axis subset, or none. -/
def Gap (text : List Char) : Prop := ∀ c ∈ text, isGap c = true

instance (text : List Char) : Decidable (Gap text) :=
  inferInstanceAs (Decidable (∀ c ∈ text, isGap c = true))

theorem gap_nil : Gap [] := nofun

theorem isBlank_of_isGap {c : Char} (h : isGap c = true) : Text.isBlank c = true := by
  simp only [isGap, Bool.or_eq_true, beq_iff_eq] at h
  rcases h with ((rfl | rfl) | rfl) | rfl <;> decide

theorem isWordChar_of_isGap {c : Char} (h : isGap c = true) : Text.isWordChar c = false := by
  rw [Bool.eq_false_iff]
  intro hword
  have hblank := isBlank_of_isGap h
  rw [Text.isBlank_of_isWordChar hword] at hblank
  cases hblank

end Axis

end CoverageQuery
