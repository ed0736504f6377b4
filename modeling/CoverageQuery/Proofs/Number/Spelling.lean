import Mathlib
import CoverageQuery.Number
import CoverageQuery.Proofs.Binary64.ReadBack

/-!
# Written numbers

Every finite number is written as a numeral that denotes this very number, with its sign and its
kind. So the text of a number can be read back in front of anything that no numeral goes on with.
-/

namespace CoverageQuery

open Text

/-- The text, after a sign, is a numeral with a fraction or an exponent, of this value. -/
def Numeral.Spells (negative : Bool) (text : List Char) (value : Nat) (exponent : Int) : Prop :=
  ∃ n : Numeral, n.WellFormed ∧ ¬n.IsWhole ∧ n.chars = signChars negative ++ text ∧
    ∃ k : Nat, n.decimal = ⟨negative, value * 10 ^ k, exponent - k⟩

namespace Binary64

open Numeral

theorem digits_zero : Digits ['0'] := by decide

theorem positional_leading (negative : Bool) {digits : List Char} (hdigits : Digits digits)
    {point : Int} (hpoint : point ≤ 0) :
    Spells negative (positional digits point) (digitsValue digits) (point - digits.length) := by
  refine ⟨⟨negative, ['0'], some (List.replicate (-point).toNat '0' ++ digits), none⟩,
    ⟨digits_zero, ?_, nofun⟩, nofun, ?_, 0, ?_⟩
  · rintro _ ⟨⟩
    refine ⟨List.append_ne_nil_of_right_ne_nil _ hdigits.1, fun c hc => ?_⟩
    rcases List.mem_append.mp hc with hzero | hdigit
    · rw [List.eq_of_mem_replicate hzero]
      rfl
    · exact hdigits.2 c hdigit
  · rw [chars_eq, positional, if_pos hpoint]
    simp [fractionChars, exponentChars]
  · have hvalue : digitsValue (['0'] ++ (List.replicate (-point).toNat '0' ++ digits)) =
        digitsValue digits := by
      rw [digitsValue_append, digitsValue_append, digitsValue_zeros]
      simp [digitsValue, Nat.ofDigitChars_cons]
    simp only [decimal, Option.getD_some, Option.map_none, Option.getD_none, hvalue,
      List.length_append, List.length_replicate, Nat.pow_zero, Nat.mul_one, Decimal.mk.injEq,
      true_and]
    omega

theorem positional_trailing (negative : Bool) {digits : List Char} (hdigits : Digits digits)
    {point : Int} (hpoint : ¬point ≤ 0) (hlong : digits.length ≤ point.toNat) :
    Spells negative (positional digits point) (digitsValue digits) (point - digits.length) := by
  refine ⟨⟨negative, digits ++ List.replicate (point.toNat - digits.length) '0', some ['0'], none⟩,
    ⟨?_, ?_, nofun⟩, nofun, ?_, point.toNat - digits.length + 1, ?_⟩
  · refine hdigits.append fun c hc => ?_
    rw [List.eq_of_mem_replicate hc]
    rfl
  · rintro _ ⟨⟩
    exact digits_zero
  · rw [chars_eq, positional, if_neg hpoint, if_pos hlong]
    simp [fractionChars, exponentChars]
  · have hvalue :
        digitsValue (digits ++ List.replicate (point.toNat - digits.length) '0' ++ ['0']) =
          digitsValue digits * 10 ^ (point.toNat - digits.length + 1) := by
      rw [digitsValue_append, digitsValue_append, digitsValue_zeros, List.length_replicate,
        Nat.pow_succ, ← Nat.mul_assoc]
      rfl
    simp only [decimal, Option.getD_some, Option.map_none, Option.getD_none, hvalue,
      List.length_singleton, Decimal.mk.injEq, true_and]
    omega

theorem positional_split (negative : Bool) {digits : List Char} (hdigits : Digits digits)
    {point : Int} (hpoint : ¬point ≤ 0) (hshort : ¬digits.length ≤ point.toNat) :
    Spells negative (positional digits point) (digitsValue digits) (point - digits.length) := by
  refine ⟨⟨negative, digits.take point.toNat, some (digits.drop point.toNat), none⟩,
    ⟨⟨?_, ?_⟩, ?_, nofun⟩, nofun, ?_, 0, ?_⟩
  · intro hnil
    have := congrArg List.length hnil
    rw [List.length_take, List.length_nil] at this
    omega
  · exact fun c hc => hdigits.2 c (List.mem_of_mem_take hc)
  · rintro _ ⟨⟩
    refine ⟨fun hnil => hshort (List.drop_eq_nil_iff.mp hnil), fun c hc => ?_⟩
    exact hdigits.2 c (List.mem_of_mem_drop hc)
  · rw [chars_eq, positional, if_neg hpoint, if_neg hshort]
    simp [fractionChars, exponentChars]
  · simp only [decimal, Option.getD_some, Option.map_none, Option.getD_none,
      List.take_append_drop, List.length_drop, Nat.pow_zero, Nat.mul_one, Decimal.mk.injEq,
      true_and]
    omega

theorem positional_spells (negative : Bool) {digits : List Char} (hdigits : Digits digits)
    (point : Int) :
    Spells negative (positional digits point) (digitsValue digits) (point - digits.length) := by
  by_cases hpoint : point ≤ 0
  · exact positional_leading negative hdigits hpoint
  · by_cases hlong : digits.length ≤ point.toNat
    · exact positional_trailing negative hdigits hpoint hlong
    · exact positional_split negative hdigits hpoint hlong

/-- The exponent part that is written for a power of ten. -/
def exponentOf (exponent : Int) : Exponent :=
  ⟨'e', if exponent < 0 then some '-' else none, digitChars exponent.natAbs⟩

theorem exponentOf_wellFormed (exponent : Int) : (exponentOf exponent).WellFormed := by
  refine ⟨.inl rfl, ?_, digits_digitChars _⟩
  unfold exponentOf
  split
  · exact .inr (.inr rfl)
  · exact .inl rfl

theorem exponentOf_chars (exponent : Int) :
    (exponentOf exponent).chars = 'e' :: intChars exponent := by
  unfold exponentOf intChars Exponent.chars
  split <;> rfl

theorem exponentOf_value (exponent : Int) : (exponentOf exponent).value = exponent := by
  simp only [exponentOf, Exponent.value, digitsValue_digitChars]
  split
  · simp only [if_true]
    omega
  · simp only [reduceCtorEq, if_false]
    omega

theorem scientific_spells (negative : Bool) {digits : List Char} (hdigits : Digits digits)
    (exponent : Int) :
    Spells negative (scientific digits exponent) (digitsValue digits)
      (exponent + 1 - digits.length) := by
  obtain ⟨c, rest, rfl, hc⟩ := hdigits.begins
  have hfirst : Digits [c] := ⟨List.cons_ne_nil _ _, by simpa using hc⟩
  have hexponent : ∀ e, some (exponentOf exponent) = some e → e.WellFormed := by
    rintro _ ⟨⟩
    exact exponentOf_wellFormed exponent
  cases rest with
  | nil =>
    refine ⟨⟨negative, [c], none, some (exponentOf exponent)⟩, ⟨hfirst, nofun, hexponent⟩,
      nofun, ?_, 0, ?_⟩
    · rw [chars_eq, scientific, ← exponentOf_chars]
      rfl
    · simp only [decimal, Option.getD_none, Option.map_some, Option.getD_some, exponentOf_value,
        List.append_nil, List.length_nil, List.length_singleton, Nat.pow_zero, Nat.mul_one,
        Decimal.mk.injEq, true_and]
      omega
  | cons d rest =>
    refine ⟨⟨negative, [c], some (d :: rest), some (exponentOf exponent)⟩,
      ⟨hfirst, ?_, hexponent⟩, nofun, ?_, 0, ?_⟩
    · rintro _ ⟨⟩
      exact ⟨List.cons_ne_nil _ _, fun x hx => hdigits.2 x (List.mem_cons_of_mem _ hx)⟩
    · rw [chars_eq, scientific, ← exponentOf_chars]
      · simp [fractionChars, exponentChars]
      · exact List.cons_ne_nil d rest
    · simp only [decimal, Option.getD_some, Option.map_some, exponentOf_value,
        List.singleton_append, List.length_cons, Nat.pow_zero, Nat.mul_one, Decimal.mk.injEq,
        true_and]
      omega

/-- The written form of a decimal is a numeral that rounds to the same double. -/
theorem exists_numeral_magnitudeChars (negative : Bool) (d : Decimal) :
    ∃ n : Numeral, n.WellFormed ∧ ¬n.IsWhole ∧ n.chars = signChars negative ++ magnitudeChars d ∧
      ofDecimal n.decimal = ofDecimal ⟨negative, d.digits, d.exponent⟩ := by
  have of_spells : ∀ text, Spells negative text (digitsValue (digitChars d.digits)) d.exponent →
      ∃ n : Numeral, n.WellFormed ∧ ¬n.IsWhole ∧ n.chars = signChars negative ++ text ∧
        ofDecimal n.decimal = ofDecimal ⟨negative, d.digits, d.exponent⟩ := by
    rintro text ⟨n, hn, hkind, hchars, k, hdecimal⟩
    refine ⟨n, hn, hkind, hchars, ?_⟩
    rw [hdecimal, digitsValue_digitChars, ofDecimal_shift]
  unfold magnitudeChars
  extract_lets digits point
  have hdigits : Digits digits := digits_digitChars d.digits
  split
  · next hzero =>
    refine ⟨⟨negative, ['0'], some ['0'], none⟩, ⟨digits_zero, ?_, nofun⟩,
      nofun, ?_, ?_⟩
    · rintro _ ⟨⟩
      exact digits_zero
    · rw [chars_eq]
      rfl
    · rw [hzero]
      exact (if_pos (.inl rfl)).trans (if_pos (.inl rfl)).symm
  · split
    · have h := positional_spells negative hdigits point
      rw [show point - digits.length = d.exponent by simp only [point]; omega] at h
      exact of_spells _ h
    · have h := scientific_spells negative hdigits (point - 1)
      rw [show point - 1 + 1 - digits.length = d.exponent by simp only [point]; omega] at h
      exact of_spells _ h

end Binary64

namespace Number

open Numeral

theorem int64?_toInt (n : Int64) : int64? n.toInt = some n := by
  unfold int64?
  rw [if_pos ⟨n.minValue_le_toInt, n.toInt_le⟩, Int64.ofInt_toInt]

theorem intChars_eq (n : Int) : intChars n = signChars (n < 0) ++ digitChars n.natAbs := by
  unfold intChars signChars
  by_cases h : n < 0 <;> simp [h]

/-- A finite number is written as a numeral that denotes it. -/
theorem exists_numeral {x : Number} (hx : x.IsFinite) :
    ∃ n : Numeral, n.WellFormed ∧ n.chars = x.chars ∧ n.number? = some x := by
  cases x with
  | int value =>
    refine ⟨⟨decide (value.toInt < 0), digitChars value.toInt.natAbs, none, none⟩,
      ⟨digits_digitChars _, nofun, nofun⟩, ?_, ?_⟩
    · rw [chars_eq, chars, intChars_eq]
      simp [fractionChars, exponentChars]
    · have hvalue : wholeValue ⟨decide (value.toInt < 0), digitChars value.toInt.natAbs, none,
          none⟩ = value.toInt := by
        simp only [wholeValue, digitsValue_digitChars, decide_eq_true_eq]
        split <;> omega
      rw [number?, if_pos ⟨rfl, rfl⟩, hvalue, int64?_toInt]
      rfl
  | float value =>
    cases value with
    | nan => exact absurd hx Binary64.not_isFinite_nan
    | infinite negative => exact absurd hx (Binary64.not_isFinite_infinite negative)
    | finite negative rank =>
      obtain ⟨n, hn, hkind, hchars, hvalue⟩ :=
        Binary64.exists_numeral_magnitudeChars negative (Binary64.shortest rank)
      refine ⟨n, hn, hchars, ?_⟩
      rw [number?, if_neg hkind, hvalue, Binary64.ofDecimal_shortest]

theorem begins_chars {x : Number} (hx : x.IsFinite) : Begins Starts x.chars := by
  obtain ⟨n, hn, hchars, -⟩ := exists_numeral hx
  exact hchars ▸ hn.begins

/-- An integer and a double, or two doubles that differ in a bit, are never written alike. -/
theorem recovers_chars {x y : Number} (hx : x.IsFinite) (hy : y.IsFinite) :
    Recovers Stops x.chars y.chars (x = y) := by
  obtain ⟨m, hm, hmchars, hmvalue⟩ := exists_numeral hx
  obtain ⟨n, hn, hnchars, hnvalue⟩ := exists_numeral hy
  rw [← hmchars, ← hnchars]
  refine (Numeral.recovers_chars hm hn).imp ?_
  rintro rfl
  exact Option.some.inj (hmvalue.symm.trans hnvalue)

end Number

end CoverageQuery
