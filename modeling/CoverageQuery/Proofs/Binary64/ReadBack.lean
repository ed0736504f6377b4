import Mathlib
import CoverageQuery.Binary64.Shortest
import CoverageQuery.Proofs.Decimal.Numeral

/-!
# Doubles read back from decimals

Rounding depends on a quotient only, not on how it is expanded, and a quotient that is the value
of a rank is rounded to that rank. Hence the exact decimal of a finite value reads back to it, and
so does the decimal that is written for it.
-/

namespace CoverageQuery

theorem natPow_eq (base exponent : Nat) : Nat.pow base exponent = base ^ exponent := rfl

theorem rankUnits_eq (width rank : Nat) :
    rankUnits width rank = if rank < 2 ^ width then rank
      else (2 ^ width + rank % 2 ^ width) * 2 ^ (rank / 2 ^ width - 1) := rfl

theorem nearestRank_eq (width num den : Nat) :
    nearestRank width num den = ((num / den).log2 - width) * 2 ^ width +
      roundHalfEven num (den * 2 ^ ((num / den).log2 - width)) := rfl

theorem Decimal.steps_eq (d : Decimal) (bits : Nat) :
    d.steps bits = (d.digits * 10 ^ d.exponent.toNat * 2 ^ bits, 10 ^ (-d.exponent).toNat) := rfl

theorem compare_mul_right (a b : Nat) {c : Nat} (hc : 0 < c) :
    compare (a * c) (b * c) = compare a b := by
  rcases Nat.lt_trichotomy a b with h | h | h
  · rw [Nat.compare_eq_lt.mpr h, Nat.compare_eq_lt.mpr (Nat.mul_lt_mul_of_pos_right h hc)]
  · rw [Nat.compare_eq_eq.mpr h, Nat.compare_eq_eq.mpr (by rw [h])]
  · rw [Nat.compare_eq_gt.mpr h, Nat.compare_eq_gt.mpr (Nat.mul_lt_mul_of_pos_right h hc)]

theorem roundHalfEven_mul_right (num den : Nat) {c : Nat} (hc : 0 < c) :
    roundHalfEven (num * c) (den * c) = roundHalfEven num den := by
  unfold roundHalfEven
  rw [Nat.mul_div_mul_right _ _ hc, Nat.mul_mod_mul_right, ← Nat.mul_assoc,
    compare_mul_right _ _ hc]

theorem roundHalfEven_mul_self (n : Nat) {den : Nat} (hden : 0 < den) :
    roundHalfEven (n * den) den = n := by
  have h := roundHalfEven_mul_right n 1 hden
  rw [Nat.one_mul] at h
  rw [h, roundHalfEven, Nat.mod_one, Nat.compare_eq_lt.mpr (by decide), Nat.div_one]

theorem nearestRank_mul_right (width num den : Nat) {c : Nat} (hc : 0 < c) :
    nearestRank width (num * c) (den * c) = nearestRank width num den := by
  rw [nearestRank_eq, nearestRank_eq, Nat.mul_div_mul_right _ _ hc, Nat.mul_right_comm den c,
    roundHalfEven_mul_right _ _ hc]

/-- Equal quotients have one nearest rank. -/
theorem nearestRank_congr (width : Nat) {num den num' den' : Nat} (hden : 0 < den)
    (hden' : 0 < den') (h : num * den' = num' * den) :
    nearestRank width num den = nearestRank width num' den' := by
  rw [← nearestRank_mul_right width num den hden', ← nearestRank_mul_right width num' den' hden, h,
    Nat.mul_comm den den']

theorem log2_mul_two_pow {m width : Nat} (hlow : 2 ^ width ≤ m) (hhigh : m < 2 ^ (width + 1))
    (k : Nat) : (m * 2 ^ k).log2 = width + k := by
  have hpos : 0 < m * 2 ^ k :=
    Nat.mul_pos (Nat.lt_of_lt_of_le (Nat.two_pow_pos width) hlow) (Nat.two_pow_pos k)
  refine (Nat.log2_eq_iff (Nat.ne_of_gt hpos)).mpr ⟨?_, ?_⟩
  · rw [Nat.pow_add]
    exact Nat.mul_le_mul_right _ hlow
  · rw [Nat.add_right_comm, Nat.pow_add]
    exact Nat.mul_lt_mul_of_pos_right hhigh (Nat.two_pow_pos k)

theorem nearestRank_rankUnits (width rank : Nat) :
    nearestRank width (rankUnits width rank) 1 = rank := by
  rw [nearestRank_eq, rankUnits_eq]
  by_cases hsmall : rank < 2 ^ width
  · have hscale : rank.log2 - width = 0 := by
      by_cases hzero : rank = 0
      · rw [hzero]
        simp
      · have := (Nat.log2_lt hzero).mpr hsmall
        omega
    rw [if_pos hsmall, Nat.div_one, hscale, Nat.zero_mul, Nat.zero_add, Nat.pow_zero]
    simpa using roundHalfEven_mul_self rank Nat.one_pos
  · have hpow := Nat.two_pow_pos width
    have hmod := Nat.mod_lt rank hpow
    have hlog := log2_mul_two_pow (m := 2 ^ width + rank % 2 ^ width) (Nat.le_add_right _ _)
      (by rw [Nat.pow_succ]; omega) (rank / 2 ^ width - 1)
    rw [if_neg hsmall, Nat.div_one, hlog, Nat.add_sub_cancel_left, Nat.one_mul,
      roundHalfEven_mul_self _ (Nat.two_pow_pos _)]
    have hbinade : 1 ≤ rank / 2 ^ width := Nat.div_pos (Nat.not_lt.mp hsmall) hpow
    have hsplit := Nat.div_add_mod rank (2 ^ width)
    rw [← Nat.add_assoc, ← Nat.succ_mul, Nat.succ_eq_add_one, Nat.sub_add_cancel hbinade,
      Nat.mul_comm]
    exact hsplit

namespace Binary64

/-- A decimal and its negation round to one rank. -/
theorem exists_rank_ofDecimal (digits : Nat) (exponent : Int) :
    ∃ rank, ∀ negative, ofDecimal ⟨negative, digits, exponent⟩ = ofRank negative rank := by
  have hlimit : ∀ negative, ofRank negative (2047 * 2 ^ 52) = infinite negative :=
    fun _ => dif_neg (Nat.lt_irrefl _)
  by_cases hzero : digits = 0 ∨ Decimal.magnitude ⟨false, digits, exponent⟩ < -330
  · exact ⟨0, fun _ => if_pos hzero⟩
  · by_cases hlarge : 310 < Decimal.magnitude ⟨false, digits, exponent⟩
    · refine ⟨2047 * 2 ^ 52, fun negative => ?_⟩
      rw [hlimit]
      exact (if_neg hzero).trans (if_pos hlarge)
    · refine ⟨nearestRank 52 (Decimal.steps ⟨false, digits, exponent⟩ 1074).1
        (Decimal.steps ⟨false, digits, exponent⟩ 1074).2, fun negative => ?_⟩
      exact (if_neg hzero).trans (if_neg hlarge)

theorem ofRank_fin (negative : Bool) (rank : Fin (2047 * 2 ^ 52)) :
    ofRank negative rank = finite negative rank := dif_pos rank.isLt

/-- Trailing zeros can be moved between the digits and the exponent. -/
theorem ofDecimal_shift (negative : Bool) (digits k : Nat) (exponent : Int) :
    ofDecimal ⟨negative, digits * 10 ^ k, exponent - k⟩ =
      ofDecimal ⟨negative, digits, exponent⟩ := by
  by_cases hzero : digits = 0
  · rw [hzero, Nat.zero_mul]
    exact (if_pos (.inl rfl)).trans (if_pos (.inl rfl)).symm
  · have hpos := Nat.pos_of_ne_zero hzero
    have hmagnitude : Decimal.magnitude ⟨negative, digits * 10 ^ k, exponent - k⟩ =
        Decimal.magnitude ⟨negative, digits, exponent⟩ := by
      simp only [Decimal.magnitude, length_digitChars_mul_pow hpos]
      omega
    have hexponents : k + (exponent - k).toNat + (-exponent).toNat =
        exponent.toNat + (-(exponent - k)).toNat := by omega
    have hrank : nearestRank 52
          (Decimal.steps ⟨negative, digits * 10 ^ k, exponent - k⟩ 1074).1
          (Decimal.steps ⟨negative, digits * 10 ^ k, exponent - k⟩ 1074).2 =
        nearestRank 52 (Decimal.steps ⟨negative, digits, exponent⟩ 1074).1
          (Decimal.steps ⟨negative, digits, exponent⟩ 1074).2 := by
      refine nearestRank_congr 52 (Nat.pow_pos (by decide)) (Nat.pow_pos (by decide)) ?_
      simp only [Decimal.steps_eq]
      generalize 2 ^ 1074 = unit
      calc digits * 10 ^ k * 10 ^ (exponent - k).toNat * unit * 10 ^ (-exponent).toNat
          = digits * unit * (10 ^ k * 10 ^ (exponent - k).toNat * 10 ^ (-exponent).toNat) := by
            ac_rfl
        _ = digits * unit * (10 ^ exponent.toNat * 10 ^ (-(exponent - k)).toNat) := by
            rw [← Nat.pow_add, ← Nat.pow_add, hexponents, Nat.pow_add]
        _ = digits * 10 ^ exponent.toNat * unit * 10 ^ (-(exponent - k)).toNat := by ac_rfl
    have hne : digits * 10 ^ k ≠ 0 := Nat.mul_ne_zero hzero (Nat.ne_of_gt (Nat.pow_pos (by decide)))
    simp only [ofDecimal, hmagnitude, hrank, hzero, hne]

theorem rankUnits_pos {rank : Nat} (h : 0 < rank) : 0 < rankUnits 52 rank := by
  rw [rankUnits_eq]
  split
  · exact h
  · exact Nat.mul_pos (Nat.add_pos_left (Nat.two_pow_pos 52) _) (Nat.two_pow_pos _)

theorem rankUnits_lt {rank binade : Nat} (h : rank < (binade + 2) * 2 ^ 52) :
    rankUnits 52 rank < 2 ^ 53 * 2 ^ binade := by
  rw [rankUnits_eq]
  split
  · next hsmall =>
    have hwidth : 2 ^ 52 ≤ 2 ^ 53 := Nat.pow_le_pow_right (by decide) (by decide)
    exact Nat.lt_of_lt_of_le hsmall
      (Nat.le_trans hwidth (Nat.le_mul_of_pos_right _ (Nat.two_pow_pos _)))
  · have hmod := Nat.mod_lt rank (Nat.two_pow_pos 52)
    have hbinade : rank / 2 ^ 52 - 1 ≤ binade := by
      have := (Nat.div_lt_iff_lt_mul (Nat.two_pow_pos 52)).mpr h
      omega
    have hfraction : (2 ^ 52 + rank % 2 ^ 52) * 2 ^ (rank / 2 ^ 52 - 1) <
        2 ^ 53 * 2 ^ (rank / 2 ^ 52 - 1) :=
      Nat.mul_lt_mul_of_pos_right (by omega) (Nat.two_pow_pos _)
    exact Nat.lt_of_lt_of_le hfraction
      (Nat.mul_le_mul_left _ (Nat.pow_le_pow_right (by decide) hbinade))

theorem exactSteps_eq (rank : Nat) : exactSteps rank = rankUnits 52 rank * 5 ^ 1074 := by
  simp only [exactSteps, natPow_eq]

theorem five_pow_pos : 0 < 5 ^ 1074 := by decide +kernel

theorem ten_pow_le_five_pow : 10 ^ 743 ≤ 5 ^ 1074 := by decide +kernel

theorem limit_le_ten_pow : 2 ^ 53 * 2 ^ 2045 * 5 ^ 1074 ≤ 10 ^ 1383 := by decide +kernel

theorem exactSteps_pos {rank : Nat} (hpos : 0 < rank) : 0 < exactSteps rank := by
  rw [exactSteps_eq]
  exact Nat.mul_pos (rankUnits_pos hpos) five_pow_pos

theorem exactSteps_zero : exactSteps 0 = 0 := by
  rw [exactSteps_eq, rankUnits_eq]
  generalize 5 ^ 1074 = unit
  rw [if_pos (Nat.two_pow_pos 52), Nat.zero_mul]

theorem length_exactSteps {rank : Nat} (hpos : 0 < rank) (h : rank < 2047 * 2 ^ 52) :
    743 < (digitChars (exactSteps rank)).length ∧
      (digitChars (exactSteps rank)).length ≤ 1383 := by
  rw [exactSteps_eq]
  refine ⟨Nat.lt_of_not_le fun hshort => ?_, ?_⟩
  · have hlow := (length_digitChars_le_iff (by decide)).mp hshort
    exact absurd (Nat.lt_of_le_of_lt ten_pow_le_five_pow
      (Nat.lt_of_le_of_lt (Nat.le_mul_of_pos_left _ (rankUnits_pos hpos)) hlow)) (Nat.lt_irrefl _)
  · refine (length_digitChars_le_iff (by decide)).mpr ?_
    exact Nat.lt_of_lt_of_le
      (Nat.mul_lt_mul_of_pos_right (rankUnits_lt h) five_pow_pos) limit_le_ten_pow

theorem steps_neg (digits bits : Nat) :
    Decimal.steps ⟨false, digits, -(bits : Int)⟩ bits = (digits * 2 ^ bits, 10 ^ bits) := by
  have hpositive : (-(bits : Int)).toNat = 0 := by omega
  have hnegative : (-(-(bits : Int))).toNat = bits := by omega
  simp only [Decimal.steps_eq, hpositive, hnegative, Nat.pow_zero, Nat.mul_one]

theorem nearestRank_exact (rank bits : Nat) :
    nearestRank 52 (rankUnits 52 rank * 5 ^ bits * 2 ^ bits) (10 ^ bits) = rank := by
  have h := nearestRank_mul_right 52 (rankUnits 52 rank) 1 (Nat.pow_pos (by decide) : 0 < 10 ^ bits)
  rw [nearestRank_rankUnits, Nat.one_mul] at h
  rw [Nat.mul_assoc, ← Nat.mul_pow]
  exact h

theorem nearestRank_exactSteps (rank : Nat) :
    nearestRank 52 (exactSteps rank * 2 ^ 1074) (10 ^ 1074) = rank := by
  have h := nearestRank_exact rank 1074
  rw [exactSteps_eq]
  exact h

/-- The exact decimal of a rank lies within the bounds outside of which nothing is computed. -/
theorem readsBack_exact {rank : Nat} (h : rank < 2047 * 2 ^ 52) :
    ReadsBack rank ⟨false, exactSteps rank, -1074⟩ := by
  unfold ReadsBack
  rcases Nat.eq_zero_or_pos rank with rfl | hpos
  · exact if_pos (.inl exactSteps_zero)
  · have hlow : ¬Decimal.magnitude ⟨false, exactSteps rank, -1074⟩ < -330 := by
      have := (length_exactSteps hpos h).1
      simp only [Decimal.magnitude]
      omega
    have hhigh : ¬310 < Decimal.magnitude ⟨false, exactSteps rank, -1074⟩ := by
      have := (length_exactSteps hpos h).2
      simp only [Decimal.magnitude]
      omega
    have hsteps : exactSteps rank ≠ 0 := Nat.ne_of_gt (exactSteps_pos hpos)
    have hexact : Decimal.steps ⟨false, exactSteps rank, -1074⟩ 1074 =
        (exactSteps rank * 2 ^ 1074, 10 ^ 1074) := steps_neg (exactSteps rank) 1074
    refine (if_neg (not_or.mpr ⟨hsteps, hlow⟩)).trans ((if_neg hhigh).trans ?_)
    rw [hexact, nearestRank_exactSteps]

theorem readsBack_of_neighbour? {rank length count : Nat} {d : Decimal}
    (h : neighbour? rank length count = some d) : ReadsBack rank d := by
  unfold neighbour? at h
  extract_lets step exponent lower upper at h
  split at h
  · next hlower =>
    rw [← Option.some.inj h]
    exact hlower.1
  · split at h
    · next hupper =>
      rw [← Option.some.inj h]
      exact hupper
    · cases h

/-- The decimal that is written for a finite value reads back to it. -/
theorem readsBack_shortest {rank : Nat} (h : rank < 2047 * 2 ^ 52) :
    ReadsBack rank (shortest rank) := by
  unfold shortest
  extract_lets length
  cases hsearch : (List.range 17).findSome? fun i => neighbour? rank length (i + 1) with
  | none => exact readsBack_exact h
  | some d =>
    obtain ⟨i, _, hneighbour⟩ := List.exists_of_findSome?_eq_some hsearch
    exact readsBack_of_neighbour? hneighbour

/-- The sign of a decimal is the sign of the double it reads back to. -/
theorem ofDecimal_of_readsBack {rank : Nat} (h : rank < 2047 * 2 ^ 52) {d : Decimal}
    (hd : ReadsBack rank d) (negative : Bool) :
    ofDecimal ⟨negative, d.digits, d.exponent⟩ = finite negative ⟨rank, h⟩ := by
  obtain ⟨sign, digits, exponent⟩ := d
  obtain ⟨found, hfound⟩ := exists_rank_ofDecimal digits exponent
  unfold ReadsBack at hd
  rw [hfound, ofRank_fin false ⟨rank, h⟩] at hd
  rw [hfound]
  unfold ofRank at hd ⊢
  split at hd
  · next hlt =>
    rw [dif_pos hlt]
    injection hd with _ hrank
    rw [hrank]
  · injection hd

theorem ofDecimal_shortest (negative : Bool) (rank : Fin (2047 * 2 ^ 52)) :
    ofDecimal ⟨negative, (shortest rank).digits, (shortest rank).exponent⟩ =
      finite negative rank :=
  ofDecimal_of_readsBack rank.isLt (readsBack_shortest rank.isLt) negative

end Binary64

end CoverageQuery
