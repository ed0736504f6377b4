import Mathlib
import CoverageQuery.Decimal.Numeral
import CoverageQuery.Proofs.Text.Recovery

/-!
# Reading numerals

The reader of numerals takes apart what `Numeral.chars` puts together. It finds every well-formed
numeral that no digit, point or exponent mark follows, and what it finds is always one.
-/

namespace CoverageQuery

open Text

theorem digits_digitChars (n : Nat) : Numeral.Digits (digitChars n) :=
  ⟨Nat.toDigits_ne_nil, fun _ hc => Nat.isDigit_of_mem_toDigits (by decide) (by decide) hc⟩

theorem digitsValue_append (xs ys : List Char) :
    digitsValue (xs ++ ys) = digitsValue xs * 10 ^ ys.length + digitsValue ys := by
  rw [digitsValue, Nat.ofDigitChars_append, Nat.ofDigitChars_eq_ofDigitChars_zero, Nat.mul_comm]

theorem digitsValue_zeros (n : Nat) : digitsValue (List.replicate n '0') = 0 := by
  rw [digitsValue, Nat.ofDigitChars_replicate_zero, Nat.mul_zero]

theorem length_digitChars_le_iff {n k : Nat} (hk : 0 < k) :
    (digitChars n).length ≤ k ↔ n < 10 ^ k :=
  Nat.length_toDigits_le_iff (by decide) hk

theorem length_digitChars_mul_pow {n : Nat} (hn : 0 < n) (k : Nat) :
    (digitChars (n * 10 ^ k)).length = (digitChars n).length + k := by
  induction k with
  | zero => simp
  | succ k ih =>
    have hlarge : 10 ≤ n * 10 ^ (k + 1) :=
      calc 10 ≤ 10 ^ (k + 1) := Nat.le_self_pow (Nat.succ_ne_zero k) 10
        _ ≤ n * 10 ^ (k + 1) := Nat.le_mul_of_pos_left _ hn
    have htenth : n * 10 ^ (k + 1) / 10 = n * 10 ^ k := by
      rw [Nat.pow_succ, ← Nat.mul_assoc, Nat.mul_div_cancel _ (by decide)]
    rw [digitChars, Nat.toDigits_of_base_le (by decide) hlarge, htenth, List.length_append, ih]
    rfl

namespace Numeral

theorem Digits.begins {text : List Char} (h : Digits text) : Begins (·.isDigit = true) text :=
  begins_of_forall h.1 h.2

theorem Digits.append {front : List Char} (h : Digits front) {text : List Char}
    (htext : ∀ c ∈ text, c.isDigit = true) : Digits (front ++ text) := by
  refine ⟨List.append_ne_nil_of_left_ne_nil h.1 text, ?_⟩
  intro c hc
  rcases List.mem_append.mp hc with hfront | hback
  · exact h.2 c hfront
  · exact htext c hback

def signChars (negative : Bool) : List Char := if negative then ['-'] else []

def fractionChars : Option (List Char) → List Char
  | some digits => '.' :: digits
  | none => []

def exponentChars : Option Exponent → List Char
  | some e => e.chars
  | none => []

theorem chars_eq (n : Numeral) :
    n.chars = signChars n.negative ++ (n.whole ++ (fractionChars n.fraction ++
      exponentChars n.exponent)) := by
  obtain ⟨negative, whole, fraction, exponent⟩ := n
  cases fraction <;> cases exponent <;> simp [chars, signChars, fractionChars, exponentChars]

/-- No numeral goes on with such a character. -/
def Stops (c : Char) : Prop := c.isDigit = false ∧ c ≠ '.' ∧ c ≠ 'e' ∧ c ≠ 'E'

instance : DecidablePred Stops := fun _ => inferInstanceAs (Decidable (_ ∧ _))

/-- Numerals begin with a minus or a digit. -/
def Starts (c : Char) : Prop := c = '-' ∨ c.isDigit = true

instance : DecidablePred Starts := fun _ => inferInstanceAs (Decidable (_ ∨ _))

theorem WellFormed.begins {n : Numeral} (h : n.WellFormed) : Begins Starts n.chars := by
  rw [chars_eq]
  cases n.negative with
  | true => exact ⟨'-', _, rfl, .inl rfl⟩
  | false => exact (h.whole.begins.append _).imp fun _ hc => .inr hc

theorem takeMinus_sign (negative : Bool) {text : List Char}
    (htext : Begins (·.isDigit = true) text) :
    takeMinus (signChars negative ++ text) = (negative, text) := by
  cases negative with
  | true => rfl
  | false =>
    obtain ⟨c, rest, rfl, hc⟩ := htext
    have hminus : c ≠ '-' := by
      rintro rfl
      exact absurd hc (by decide)
    rw [signChars, if_neg Bool.false_ne_true, List.nil_append, takeMinus]
    exact fun _ heq => hminus (List.cons.inj heq).1

theorem takeDigits_run {digits rest : List Char} (hdigits : ∀ c ∈ digits, c.isDigit = true)
    (hrest : Opens (·.isDigit = false) rest) : takeDigits (digits ++ rest) = (digits, rest) := by
  rw [takeDigits, takeWhile_run hdigits hrest, dropWhile_run hdigits hrest]

theorem takeFraction_none {text : List Char} (htext : Opens (· ≠ '.') text) :
    takeFraction text = (none, text) := by
  cases text with
  | nil => rfl
  | cons c rest =>
    rw [takeFraction]
    exact fun _ heq => (opens_cons _ c rest).mp htext (List.cons.inj heq).1

theorem takeFraction_some {digits rest : List Char} (hdigits : Digits digits)
    (hrest : Opens (·.isDigit = false) rest) :
    takeFraction ('.' :: digits ++ rest) = (some digits, rest) := by
  obtain ⟨c, tail, rfl, hc⟩ := hdigits.begins
  rw [List.cons_append, takeFraction, takeDigits_run hdigits.2 hrest]

theorem takeSign_digits {text : List Char} (htext : Begins (·.isDigit = true) text) :
    takeSign text = (none, text) := by
  obtain ⟨c, rest, rfl, hc⟩ := htext
  have hsign : ¬(c = '+' ∨ c = '-') := by
    rintro (rfl | rfl) <;> exact absurd hc (by decide)
  simp [takeSign, hsign]

theorem takeExponent_none {text : List Char} (htext : Opens (fun c => c ≠ 'e' ∧ c ≠ 'E') text) :
    takeExponent text = (none, text) := by
  cases text with
  | nil => rfl
  | cons c rest =>
    have hmark := (opens_cons _ c rest).mp htext
    simp [takeExponent, hmark]

theorem takeExponent_some {e : Exponent} (he : e.WellFormed) {rest : List Char}
    (hrest : Opens (·.isDigit = false) rest) : takeExponent (e.chars ++ rest) = (some e, rest) := by
  obtain ⟨mark, sign, digits⟩ := e
  obtain ⟨hmark, hsign, hdigits⟩ := he
  have hread : takeSign (sign.toList ++ digits ++ rest) = (sign, digits ++ rest) := by
    rcases hsign with rfl | rfl | rfl
    · exact takeSign_digits (hdigits.begins.append rest)
    · simp [takeSign]
    · simp [takeSign]
  obtain ⟨c, tail, hcons, -⟩ := hdigits.begins
  simp only [Exponent.chars, List.cons_append, takeExponent, if_pos hmark, hread,
    takeDigits_run hdigits.2 hrest]
  subst hcons
  rfl

/-- A numeral is found whole, however it is spelled. -/
theorem read?_chars {n : Numeral} (hn : n.WellFormed) {rest : List Char}
    (hrest : Opens Stops rest) : read? (n.chars ++ rest) = some (n, rest) := by
  obtain ⟨negative, whole, fraction, exponent⟩ := n
  have hwhole : Digits whole := hn.whole
  obtain ⟨c, tail, hcons, -⟩ := hwhole.begins
  have hexponent : takeExponent (exponentChars exponent ++ rest) = (exponent, rest) := by
    cases exponent with
    | none => exact takeExponent_none (hrest.imp fun _ h => h.2.2)
    | some e => exact takeExponent_some (hn.exponent e rfl) (hrest.imp fun _ h => h.1)
  have hmarks : Opens (fun c => c.isDigit = false ∧ c ≠ '.') (exponentChars exponent ++ rest) := by
    cases exponent with
    | none => exact hrest.imp fun _ h => ⟨h.1, h.2.1⟩
    | some e =>
      rcases (hn.exponent e rfl).1 with hmark | hmark <;>
        simp [exponentChars, Exponent.chars, hmark]
  have hfraction : takeFraction (fractionChars fraction ++ (exponentChars exponent ++ rest)) =
      (fraction, exponentChars exponent ++ rest) := by
    cases fraction with
    | none => exact takeFraction_none (hmarks.imp fun _ h => h.2)
    | some digits => exact takeFraction_some (hn.fraction digits rfl) (hmarks.imp fun _ h => h.1)
  have hpoint : Opens (·.isDigit = false)
      (fractionChars fraction ++ (exponentChars exponent ++ rest)) := by
    cases fraction with
    | none => exact hmarks.imp fun _ h => h.1
    | some digits => simp [fractionChars]
  rw [chars_eq, List.append_assoc, List.append_assoc, List.append_assoc, read?,
    takeMinus_sign negative (hwhole.begins.append _)]
  simp only [takeDigits_run hwhole.2 hpoint]
  subst hcons
  simp only [hfraction, hexponent]

theorem eq_of_takeMinus {text rest : List Char} {negative : Bool}
    (h : takeMinus text = (negative, rest)) : text = signChars negative ++ rest := by
  unfold takeMinus at h
  split at h <;> cases h <;> rfl

theorem eq_of_takeDigits {text digits rest : List Char} (h : takeDigits text = (digits, rest)) :
    text = digits ++ rest ∧ ∀ c ∈ digits, c.isDigit = true := by
  cases h
  exact ⟨List.takeWhile_append_dropWhile.symm, forall_takeWhile _ text⟩

theorem eq_of_takeFraction {text rest : List Char} {fraction : Option (List Char)}
    (h : takeFraction text = (fraction, rest)) :
    text = fractionChars fraction ++ rest ∧
      ∀ digits, fraction = some digits → Digits digits := by
  unfold takeFraction at h
  split at h
  · split at h
    · cases h
      exact ⟨rfl, nofun⟩
    · next digits after hne hread =>
      cases h
      obtain ⟨htext, hdigits⟩ := eq_of_takeDigits hread
      refine ⟨by rw [htext]; rfl, ?_⟩
      rintro _ ⟨⟩
      exact ⟨hne, hdigits⟩
  · cases h
    exact ⟨rfl, nofun⟩

theorem eq_of_takeSign {text rest : List Char} {sign : Option Char}
    (h : takeSign text = (sign, rest)) :
    text = sign.toList ++ rest ∧ (sign = none ∨ sign = some '+' ∨ sign = some '-') := by
  unfold takeSign at h
  split at h
  · split at h
    · next hsign =>
      cases h
      exact ⟨rfl, .inr (by simpa using hsign)⟩
    · cases h
      exact ⟨rfl, .inl rfl⟩
  · cases h
    exact ⟨rfl, .inl rfl⟩

theorem eq_of_takeExponent {text rest : List Char} {exponent : Option Exponent}
    (h : takeExponent text = (exponent, rest)) :
    text = exponentChars exponent ++ rest ∧ ∀ e, exponent = some e → e.WellFormed := by
  unfold takeExponent at h
  split at h
  · next c after =>
    split at h
    · next hmark =>
      rcases hunsigned : takeSign after with ⟨sign, unsigned⟩
      simp only [hunsigned] at h
      split at h
      · cases h
        exact ⟨rfl, nofun⟩
      · next digits tail hne hread =>
        cases h
        obtain ⟨hafter, hsign⟩ := eq_of_takeSign hunsigned
        obtain ⟨hdigits, hall⟩ := eq_of_takeDigits hread
        refine ⟨?_, ?_⟩
        · rw [hafter, hdigits]
          simp [exponentChars, Exponent.chars]
        · rintro _ ⟨⟩
          exact ⟨hmark, hsign, hne, hall⟩
    · cases h
      exact ⟨rfl, nofun⟩
  · cases h
    exact ⟨rfl, nofun⟩

/-- What is found is a numeral at the front of the text. -/
theorem eq_chars_of_read? {text rest : List Char} {n : Numeral} (h : read? text = some (n, rest)) :
    n.WellFormed ∧ text = n.chars ++ rest := by
  unfold read? at h
  rcases hminus : takeMinus text with ⟨negative, afterMinus⟩
  simp only [hminus] at h
  split at h
  · cases h
  · next whole afterWhole hne hwhole =>
    rcases hfraction : takeFraction afterWhole with ⟨fraction, afterFraction⟩
    rcases hexponent : takeExponent afterFraction with ⟨exponent, last⟩
    simp only [hfraction, hexponent, Option.some.injEq, Prod.mk.injEq] at h
    obtain ⟨rfl, rfl⟩ := h
    obtain ⟨hdigits, hall⟩ := eq_of_takeDigits hwhole
    obtain ⟨hpoint, hfractionDigits⟩ := eq_of_takeFraction hfraction
    obtain ⟨hmark, hexponentFormed⟩ := eq_of_takeExponent hexponent
    refine ⟨⟨⟨hne, hall⟩, hfractionDigits, hexponentFormed⟩, ?_⟩
    rw [eq_of_takeMinus hminus, hdigits, hpoint, hmark, chars_eq]
    simp only [List.append_assoc]

theorem recovers_chars {m n : Numeral} (hm : m.WellFormed) (hn : n.WellFormed) :
    Recovers Stops m.chars n.chars (m = n) := by
  intro s t hs ht heq
  have hread := read?_chars hm hs
  rw [heq, read?_chars hn ht] at hread
  cases hread
  exact ⟨rfl, rfl⟩

end Numeral

end CoverageQuery
