import CoverageQuery.Axis.Reader
import CoverageQuery.Proofs.Decimal.Numeral

/-!
# Written dates

A date is spelled with four digits for the year and two for the month and the day, as far as they
are given. The spellings are exactly what the reader of dates accepts, and exactly what is written
for a label; only a day that no month precedes is lost in writing.
-/

namespace CoverageQuery

open Text

/-- A year, a year and a month, or all three, each as a row of digits. -/
inductive DateSpelling where
  | year (year : List Char)
  | month (year month : List Char)
  | day (year month day : List Char)
deriving DecidableEq

/-- This many digits. -/
def DigitRow (count : Nat) (text : List Char) : Prop :=
  text.length = count ∧ ∀ c ∈ text, c.isDigit = true

instance (count : Nat) (text : List Char) : Decidable (DigitRow count text) :=
  inferInstanceAs (Decidable (_ ∧ _))

theorem DigitRow.begins {count : Nat} {text : List Char} (h : DigitRow (count + 1) text) :
    Begins (·.isDigit = true) text := by
  refine begins_of_forall ?_ h.2
  rintro rfl
  exact absurd h.1 (Nat.succ_ne_zero count).symm

namespace DateSpelling

def rows : DateSpelling → List (List Char)
  | year y => [y]
  | month y m => [y, m]
  | day y m d => [y, m, d]

/-- The rows with hyphens between them. -/
def parts (s : DateSpelling) : List Char := joined ['-'] s.rows

def chars (s : DateSpelling) : List Char := '"' :: s.parts ++ ['"']

/-- Four digits for the year and two for each of the others. -/
def Shaped : DateSpelling → Prop
  | year y => DigitRow 4 y
  | month y m => DigitRow 4 y ∧ DigitRow 2 m
  | day y m d => DigitRow 4 y ∧ DigitRow 2 m ∧ DigitRow 2 d

instance : DecidablePred Shaped
  | year _ => inferInstanceAs (Decidable (DigitRow _ _))
  | month _ _ => inferInstanceAs (Decidable (_ ∧ _))
  | day _ _ _ => inferInstanceAs (Decidable (_ ∧ _))

/-- The label that the digits denote, in range or not. -/
def label : DateSpelling → DateLabel
  | year y => ⟨digitsValue y, none, none⟩
  | month y m => ⟨digitsValue y, some (digitsValue m), none⟩
  | day y m d => ⟨digitsValue y, some (digitsValue m), some (digitsValue d)⟩

/-- The right digits in number and in value. -/
def WellFormed (s : DateSpelling) : Prop := s.Shaped ∧ s.label.WellFormed

theorem not_orphanDay_label (s : DateSpelling) : ¬s.label.OrphanDay := by
  cases s <;> simp [DateLabel.OrphanDay, label]

theorem digits_of_mem_rows {s : DateSpelling} (hs : s.Shaped) {row : List Char}
    (hrow : row ∈ s.rows) :
    Begins (·.isDigit = true) row ∧ ∀ c ∈ row, c.isDigit = true := by
  cases s with
  | year y =>
    rw [rows, List.mem_singleton] at hrow
    exact hrow ▸ ⟨hs.begins, hs.2⟩
  | month y m =>
    rw [rows, List.mem_cons, List.mem_singleton] at hrow
    obtain ⟨hy, hm⟩ := hs
    rcases hrow with rfl | rfl
    · exact ⟨hy.begins, hy.2⟩
    · exact ⟨hm.begins, hm.2⟩
  | day y m d =>
    rw [rows, List.mem_cons, List.mem_cons, List.mem_singleton] at hrow
    obtain ⟨hy, hm, hd⟩ := hs
    rcases hrow with rfl | rfl | rfl
    · exact ⟨hy.begins, hy.2⟩
    · exact ⟨hm.begins, hm.2⟩
    · exact ⟨hd.begins, hd.2⟩

theorem eq_of_rows_eq {s t : DateSpelling} (h : s.rows = t.rows) : s = t := by
  cases s <;> cases t <;> simp_all [rows]

/-- The closing quote makes the spelling readable in front of anything. -/
theorem recovers_chars {s t : DateSpelling} (hs : s.Shaped) (ht : t.Shaped) :
    Recovers (fun _ => True) s.chars t.chars (s = t) := by
  intro u v _ _ heq
  have hrows : Recovers (fun c => c.isDigit = false ∧ c ≠ '-' ∧ ¬c.isDigit = true)
      (joined ['-'] (s.rows.map id)) (joined ['-'] (t.rows.map id))
      (s.rows.map id = t.rows.map id) := by
    refine recovers_joined ?_ s.rows t.rows (fun row hrow => (digits_of_mem_rows hs hrow).1)
      (fun row hrow => (digits_of_mem_rows ht hrow).1) fun x hx y hy => ?_
    · decide
    · exact recovers_run (digits_of_mem_rows hs hx).2 (digits_of_mem_rows ht hy).2
  simp only [chars, List.cons_append, List.append_assoc, List.cons.injEq, true_and] at heq
  rw [List.map_id, List.map_id] at hrows
  obtain ⟨hsame, hrest⟩ := hrows.before (by decide) heq
  exact ⟨eq_of_rows_eq hsame, hrest⟩

end DateSpelling

namespace DateLabel

/-- The label as far as it is written: without a day that no month precedes. -/
def written (d : DateLabel) : DateLabel :=
  match d.month with
  | none => { d with day := none }
  | some _ => d

theorem written_eq_self {d : DateLabel} (h : ¬d.OrphanDay) : d.written = d := by
  obtain ⟨year, month, day⟩ := d
  cases month with
  | none =>
    cases day with
    | none => rfl
    | some n => exact absurd ⟨rfl, nofun⟩ h
  | some m => rfl

@[simp] theorem chars_written (d : DateLabel) : d.written.chars = d.chars := by
  obtain ⟨year, month, day⟩ := d
  cases month <;> rfl

theorem digitRow_digitChars {year : Nat} (h : DatePart.year.Allows year) :
    DigitRow 4 (digitChars year) := by
  obtain ⟨hlow, hhigh⟩ : 1000 ≤ (year : Int) ∧ (year : Int) ≤ 9999 := h
  have hshort : (digitChars year).length ≤ 4 :=
    (length_digitChars_le_iff (by decide)).mpr (by omega)
  have hlong : ¬(digitChars year).length ≤ 3 := by
    rw [length_digitChars_le_iff (by decide)]
    omega
  exact ⟨by omega, (digits_digitChars year).2⟩

theorem digitRow_twoDigits (n : Nat) : DigitRow 2 (twoDigits n) := by
  refine ⟨rfl, ?_⟩
  intro c hc
  simp only [twoDigits, List.mem_cons, List.not_mem_nil, or_false] at hc
  rcases hc with rfl | rfl <;> rw [Nat.isDigit_digitChar, decide_eq_true_eq] <;> omega

theorem digitsValue_twoDigits {n : Nat} (h : n < 100) : digitsValue (twoDigits n) = n := by
  rw [digitsValue, twoDigits, Nat.ofDigitChars_cons_digitChar_of_lt_ten (by omega),
    Nat.ofDigitChars_cons_digitChar_of_lt_ten (by omega), Nat.ofDigitChars_nil]
  omega

/-- What is written for a label spells the label as far as it is written. -/
theorem exists_spelling {d : DateLabel} (h : d.WellFormed) :
    ∃ s : DateSpelling, s.WellFormed ∧ s.chars = d.chars ∧ s.label = d.written := by
  obtain ⟨year, month, day⟩ := d
  obtain ⟨hyear, hmonth, hday⟩ := h
  have hrow := digitRow_digitChars hyear
  cases month with
  | none =>
    refine ⟨.year (digitChars year), ⟨hrow, ?_⟩, ?_, ?_⟩
    · exact ⟨by simpa [DateSpelling.label, digitsValue_digitChars] using hyear, nofun, nofun⟩
    · simp [DateSpelling.chars, DateSpelling.parts, DateSpelling.rows, chars, parts]
    · simp [DateSpelling.label, written]
  | some m =>
    have hallows : 1 ≤ (m : Int) ∧ (m : Int) ≤ 12 := hmonth m rfl
    have hm : digitsValue (twoDigits m) = m := digitsValue_twoDigits (by omega)
    cases day with
    | none =>
      have hlabel : (DateSpelling.month (digitChars year) (twoDigits m)).label =
          ⟨year, some m, none⟩ := by
        rw [DateSpelling.label, digitsValue_digitChars, hm]
      refine ⟨.month (digitChars year) (twoDigits m), ⟨⟨hrow, digitRow_twoDigits m⟩, ?_⟩, ?_,
        hlabel⟩
      · exact hlabel ▸ ⟨hyear, hmonth, hday⟩
      · simp [DateSpelling.chars, DateSpelling.parts, DateSpelling.rows, chars, parts]
    | some n =>
      have hallowed : 1 ≤ (n : Int) ∧ (n : Int) ≤ 31 := hday n rfl
      have hn : digitsValue (twoDigits n) = n := digitsValue_twoDigits (by omega)
      have hlabel : (DateSpelling.day (digitChars year) (twoDigits m) (twoDigits n)).label =
          ⟨year, some m, some n⟩ := by
        rw [DateSpelling.label, digitsValue_digitChars, hm, hn]
      refine ⟨.day (digitChars year) (twoDigits m) (twoDigits n),
        ⟨⟨hrow, digitRow_twoDigits m, digitRow_twoDigits n⟩, ?_⟩, ?_, hlabel⟩
      · exact hlabel ▸ ⟨hyear, hmonth, hday⟩
      · simp [DateSpelling.chars, DateSpelling.parts, DateSpelling.rows, chars, parts]

theorem ofParts_label {d : DateLabel} (h : d.WellFormed) :
    ofParts d.year d.month d.day = .ok d := by
  obtain ⟨year, month, day⟩ := d
  obtain ⟨hyear, hmonth, hday⟩ := h
  have hm : checkPart? .month month = .ok () := by
    cases month with
    | none => rfl
    | some m => exact if_pos (hmonth m rfl)
  have hd : checkPart? .day day = .ok () := by
    cases day with
    | none => rfl
    | some n => exact if_pos (hday n rfl)
  have hy : checkPart .year year = .ok () := if_pos hyear
  simp only [ofParts, hy, hm, hd]
  rfl

theorem allows_of_checkPart? {part : DatePart} {found : Option Nat}
    (h : checkPart? part found = .ok ()) : ∀ n, found = some n → part.Allows n := by
  rintro n rfl
  by_cases hn : part.Allows n
  · exact hn
  · rw [checkPart?, checkPart, if_neg hn] at h
    cases h

/-- A label that is made has its parts in range, and they are the ones that were given. -/
theorem eq_of_ofParts {year : Nat} {month day : Option Nat} {d : DateLabel}
    (h : ofParts year month day = .ok d) : d = ⟨year, month, day⟩ ∧ d.WellFormed := by
  unfold ofParts at h
  cases hy : checkPart .year year with
  | error e =>
    rw [hy] at h
    cases h
  | ok _ =>
    cases hm : checkPart? .month month with
    | error e =>
      rw [hy, hm] at h
      cases h
    | ok _ =>
      cases hd : checkPart? .day day with
      | error e =>
        rw [hy, hm, hd] at h
        cases h
      | ok _ =>
        rw [hy, hm, hd] at h
        cases h
        have hyear : checkPart? .year (some year) = .ok () := hy
        exact ⟨rfl, allows_of_checkPart? hyear year rfl, allows_of_checkPart? hm,
          allows_of_checkPart? hd⟩

end DateLabel

end CoverageQuery
