import Mathlib.Data.List.Forall2
import CoverageQuery.Number
import CoverageQuery.Proofs.Text.Recovery

/-!
# Texts that differ in their zeros

Equality of trees compares numbers by value, under which the two zeros are equal, but a zero is
written with its sign. `Alike` states of two texts that they are the same but for numbers of equal
values; they are one text exactly if their zeros have the same signs.
-/

namespace CoverageQuery

open Text

namespace Number

/-- The zero with this sign. -/
def zero (negative : Bool) : Number := float (.finite negative ⟨0, by decide⟩)

/-- The sign of a zero, none for any other number. -/
def zeroSign? : Number → Option Bool
  | float (.finite negative rank) => if rank.val = 0 then some negative else none
  | _ => none

theorem chars_zero (negative : Bool) :
    (zero negative).chars = (if negative then ['-'] else []) ++ ['0', '.', '0'] := by
  cases negative <;> decide +kernel

/-- Numbers of one value are one number, or both are zeros. -/
theorem eq_or_zeros_of_sameValue {m n : Number} (h : m.sameValue n = true) :
    (m = n ∧ m.zeroSign? = none) ∨ ∃ a b, m = zero a ∧ n = zero b := by
  unfold sameValue at h
  split at h
  · next i j => exact .inl ⟨congrArg int (eq_of_beq h), rfl⟩
  · next x y =>
    unfold Binary64.sameValue at h
    split at h
    · next a b => exact .inl ⟨congrArg (float ∘ .infinite) (eq_of_beq h), rfl⟩
    · next a i b j =>
      simp only [Bool.and_eq_true, Bool.or_eq_true, beq_iff_eq] at h
      obtain ⟨hrank, hsign⟩ := h
      obtain rfl : i = j := Fin.ext hrank
      by_cases hzero : i.val = 0
      · obtain rfl : i = ⟨0, by decide⟩ := Fin.ext hzero
        exact .inr ⟨a, b, rfl, rfl⟩
      · obtain rfl := hsign.resolve_right hzero
        exact .inl ⟨rfl, if_neg hzero⟩
    · cases h
  · cases h

theorem recovers_of_sameValue {m n : Number} (h : m.sameValue n = true) :
    Recovers (fun _ => True) m.chars n.chars (m = n) := by
  intro s t _ _ heq
  rcases eq_or_zeros_of_sameValue h with ⟨rfl, -⟩ | ⟨a, b, rfl, rfl⟩
  · exact ⟨rfl, List.append_cancel_left heq⟩
  · rw [chars_zero, chars_zero] at heq
    obtain rfl : a = b := by
      cases a <;> cases b <;> first | rfl | cases (List.cons.inj heq).1
    exact ⟨rfl, List.append_cancel_left heq⟩

/-- The signs of the zeros among some numbers. -/
def zeroSigns (ns : List Number) : List Bool := ns.filterMap zeroSign?

/-- Rows of numbers of equal values differ in the signs of their zeros only. -/
theorem eq_iff_zeroSigns {ms ns : List Number}
    (h : List.Forall₂ (fun m n => m.sameValue n = true) ms ns) :
    ms = ns ↔ zeroSigns ms = zeroSigns ns := by
  induction h with
  | nil => exact ⟨fun _ => rfl, fun _ => rfl⟩
  | cons hsame _ ih =>
    rcases eq_or_zeros_of_sameValue hsame with ⟨rfl, hsign⟩ | ⟨a, b, rfl, rfl⟩
    · rw [zeroSigns, zeroSigns, List.filterMap_cons_none hsign, List.filterMap_cons_none hsign,
        List.cons_inj_right]
      exact ih
    · have hzero : ∀ (sign : Bool) (ns : List Number),
          zeroSigns (zero sign :: ns) = sign :: zeroSigns ns := fun sign ns => rfl
      rw [hzero, hzero, List.cons.injEq, List.cons.injEq, ih]
      refine and_congr_left fun _ => ⟨fun heq => ?_, congrArg zero⟩
      cases heq
      rfl

end Number

/-- Lists that are compared item by item have items that are the same one by one. -/
theorem forall₂_of_same {α : Type} {as bs : List α} (same : List α → List α → Bool)
    {r : α → α → Bool}
    (hnil : ∀ b bs, same [] (b :: bs) = false) (hcons_nil : ∀ a as, same (a :: as) [] = false)
    (hcons : ∀ a as b bs, same (a :: as) (b :: bs) = (r a b && same as bs))
    (h : same as bs = true) : List.Forall₂ (fun a b => r a b = true) as bs := by
  induction as generalizing bs with
  | nil =>
    cases bs with
    | nil => exact .nil
    | cons b bs => cases (hnil b bs).symm.trans h
  | cons a as ih =>
    cases bs with
    | nil => cases (hcons_nil a as).symm.trans h
    | cons b bs =>
      rw [hcons, Bool.and_eq_true] at h
      exact .cons h.1 (ih h.2)

/-- The texts are the same, but for the first numbers in the one and the second numbers in the
other, which have the same values one by one. -/
inductive Alike : List Char → List Char → List Number → List Number → Prop
  | literal (text : List Char) : Alike text text [] []
  | number {m n : Number} (h : m.sameValue n = true) : Alike m.chars n.chars [m] [n]
  | append {x y x' y' : List Char} {ms ns ms' ns' : List Number} (front : Alike x y ms ns)
      (back : Alike x' y' ms' ns') : Alike (x ++ x') (y ++ y') (ms ++ ms') (ns ++ ns')

namespace Alike

variable {x y : List Char} {ms ns : List Number}

theorem after (text : List Char) (h : Alike x y ms ns) : Alike (text ++ x) (text ++ y) ms ns :=
  (literal text).append h

theorem before (h : Alike x y ms ns) (text : List Char) : Alike (x ++ text) (y ++ text) ms ns := by
  have happend := h.append (literal text)
  rwa [List.append_nil, List.append_nil] at happend

theorem forall₂ (h : Alike x y ms ns) :
    List.Forall₂ (fun m n => m.sameValue n = true) ms ns := by
  induction h with
  | literal text => exact .nil
  | number h => exact .cons h .nil
  | append _ _ ihfront ihback => exact List.rel_append ihfront ihback

theorem recovers (h : Alike x y ms ns) : Recovers (fun _ => True) x y (ms = ns) := by
  induction h with
  | literal text => exact fun s t _ _ heq => ⟨rfl, List.append_cancel_left heq⟩
  | number h =>
    apply (Number.recovers_of_sameValue h).imp
    rintro rfl
    rfl
  | append _ _ ihfront ihback =>
    intro s t hs ht heq
    rw [List.append_assoc, List.append_assoc] at heq
    obtain ⟨rfl, hback⟩ := ihfront _ _ (fun _ _ => trivial) (fun _ _ => trivial) heq
    obtain ⟨rfl, hst⟩ := ihback s t hs ht hback
    exact ⟨rfl, hst⟩

theorem chars_eq (h : Alike x y ms ns) (heq : ms = ns) : x = y := by
  induction h with
  | literal text => rfl
  | number h =>
    cases heq
    rfl
  | append front _ ihfront ihback =>
    obtain ⟨hms, hms'⟩ := List.append_inj heq front.forall₂.length_eq
    rw [ihfront hms, ihback hms']

/-- Alike texts are one text exactly if their zeros have the same signs. -/
theorem eq_iff (h : Alike x y ms ns) : x = y ↔ Number.zeroSigns ms = Number.zeroSigns ns := by
  rw [← Number.eq_iff_zeroSigns h.forall₂]
  constructor
  · intro heq
    exact (h.recovers [] [] (opens_nil _) (opens_nil _) (by rw [heq])).1
  · exact h.chars_eq

section Lists

variable {α : Type} {write : α → List Char} {numbers : α → List Number} {as bs : List α}

theorem flatMap
    (h : List.Forall₂ (fun a b => Alike (write a) (write b) (numbers a) (numbers b)) as bs) :
    Alike (as.flatMap write) (bs.flatMap write) (as.flatMap numbers) (bs.flatMap numbers) := by
  induction h with
  | nil => exact literal []
  | cons hitem _ ih =>
    simp only [List.flatMap_cons]
    exact hitem.append ih

theorem joined (separator : List Char)
    (h : List.Forall₂ (fun a b => Alike (write a) (write b) (numbers a) (numbers b)) as bs) :
    Alike (Text.joined separator (as.map write)) (Text.joined separator (bs.map write))
      (as.flatMap numbers) (bs.flatMap numbers) := by
  cases h with
  | nil => exact literal []
  | cons hitem hrest =>
    rw [joined_map_cons, joined_map_cons]
    apply hitem.append
    exact flatMap (hrest.imp fun a b hab => hab.after separator)

end Lists

end Alike

end CoverageQuery
