import CoverageQuery.Proofs.Axis.Parsing
import CoverageQuery.Proofs.Expr.WellFormed

/-!
# Parsing dates

A date label is read from its digits, in quotes or not, and a label that is read has exactly the
parts that its digits denote. It is read back from what is written for it unless it has a day that
no month precedes. Between the parentheses of an axis subset the same dates are read.
-/

namespace CoverageQuery

open Text

namespace Text

/-- What is left of a text without the pair of double quotes around it, which is the text itself if
there is no such pair. -/
inductive Unquoted : List Char → List Char → Prop
  | enclosed (inner : List Char) : Unquoted ('"' :: inner ++ ['"']) inner
  | bare {text : List Char} (h : ∀ inner, text ≠ '"' :: inner ++ ['"']) : Unquoted text text

theorem unquoted_unquote (text : List Char) : Unquoted text (unquote text) := by
  unfold unquote
  split
  · next rest =>
    split
    · next hlast =>
      have henclosed := Unquoted.enclosed rest.dropLast
      rwa [List.cons_append, List.dropLast_append_getLast? _ hlast] at henclosed
    · next hlast =>
      apply Unquoted.bare
      intro inner h
      obtain rfl := (List.cons.inj h).2
      exact hlast (by simp)
  · next hfirst =>
    apply Unquoted.bare
    intro inner h
    exact hfirst _ h

theorem Unquoted.unique {text inner inner' : List Char} (h : Unquoted text inner)
    (h' : Unquoted text inner') : inner = inner' := by
  cases h with
  | enclosed =>
    generalize htext : '"' :: inner ++ ['"'] = text at h'
    cases h' with
    | enclosed => simpa using htext
    | bare hbare => exact absurd htext.symm (hbare inner)
  | bare hbare =>
    cases h' with
    | enclosed => exact absurd rfl (hbare inner')
    | bare _ => rfl

/-- The quotes keep what is between them from being trimmed. -/
theorem unquoted_trim (inner : List Char) : Unquoted (trim ('"' :: inner ++ ['"'])) inner := by
  have htrim : trim ('"' :: inner ++ ['"']) = '"' :: inner ++ ['"'] := by
    apply trim_eq_self
    · rw [List.cons_append]
      exact (opens_cons _ _ _).mpr (by decide)
    · rw [List.reverse_append]
      exact (opens_cons _ _ _).mpr (by decide)
  rw [htrim]
  exact .enclosed inner

end Text

section Rows

variable {text text' : List Char} {count : Nat}

theorem digitsValue_cons (c : Char) (text : List Char) :
    digitsValue (c :: text) = digitsValue [c] * 10 ^ text.length + digitsValue text :=
  digitsValue_append [c] text

theorem digitsValue_singleton (c : Char) : digitsValue [c] = c.toNat - 48 := by
  rw [digitsValue, Nat.ofDigitChars_cons, Nat.ofDigitChars_nil, Nat.mul_zero, Nat.zero_add]
  rfl

theorem digitsValue_lt (h : ∀ c ∈ text, c.isDigit = true) :
    digitsValue text < 10 ^ text.length := by
  induction text with
  | nil => exact Nat.zero_lt_one
  | cons c text ih =>
    rw [List.forall_mem_cons] at h
    have hrest := ih h.2
    have hfirst : digitsValue [c] < 10 := by
      have hbounds : 48 ≤ c.toNat ∧ c.toNat ≤ 57 := Char.isDigit_iff_toNat.mp h.1
      rw [digitsValue_singleton]
      omega
    calc digitsValue (c :: text)
        = digitsValue [c] * 10 ^ text.length + digitsValue text := digitsValue_cons c text
      _ < (digitsValue [c] + 1) * 10 ^ text.length := by rw [Nat.succ_mul]; omega
      _ ≤ 10 * 10 ^ text.length := Nat.mul_le_mul_right _ hfirst
      _ = 10 ^ (text.length + 1) := by rw [Nat.pow_succ, Nat.mul_comm]

/-- Rows of as many digits that denote one number are one row. -/
theorem DigitRow.eq_of_value (h : DigitRow count text) (h' : DigitRow count text')
    (hvalue : digitsValue text = digitsValue text') : text = text' := by
  induction text generalizing count text' with
  | nil => exact (List.length_eq_zero_iff.mp (h'.1.trans h.1.symm)).symm
  | cons c text ih =>
    cases text' with
    | nil => exact absurd (h.1.trans h'.1.symm) (Nat.succ_ne_zero _)
    | cons d text' =>
      obtain ⟨hlength, hdigits⟩ := h
      obtain ⟨hlength', hdigits'⟩ := h'
      rw [List.forall_mem_cons] at hdigits hdigits'
      have hsame : text.length = text'.length := Nat.succ.inj (hlength.trans hlength'.symm)
      have hlow := digitsValue_lt hdigits.2
      have hlow' := digitsValue_lt hdigits'.2
      rw [digitsValue_cons, digitsValue_cons d, ← hsame] at hvalue
      rw [← hsame] at hlow'
      have hrest : digitsValue text = digitsValue text' := by
        have hmod := congrArg (· % 10 ^ text.length) hvalue
        simpa only [Nat.mul_add_mod_of_lt hlow, Nat.mul_add_mod_of_lt hlow'] using hmod
      have hfirst : digitsValue [c] = digitsValue [d] := by
        rw [hrest, Nat.add_right_cancel_iff] at hvalue
        exact Nat.eq_of_mul_eq_mul_right (Nat.pow_pos (by decide)) hvalue
      have hbounds : 48 ≤ c.toNat ∧ c.toNat ≤ 57 := Char.isDigit_iff_toNat.mp hdigits.1
      have hbounds' : 48 ≤ d.toNat ∧ d.toNat ≤ 57 := Char.isDigit_iff_toNat.mp hdigits'.1
      rw [digitsValue_singleton, digitsValue_singleton] at hfirst
      have hchar : c = d := Char.toNat_inj.mp (by omega)
      rw [hchar, ih ⟨rfl, hdigits.2⟩ ⟨hsame.symm, hdigits'.2⟩ hrest]

end Rows

namespace DateLabel

/-- The year is below 1000, the month is none of twelve or the day none of 31. -/
def OutOfRange (d : DateLabel) : Prop :=
  d.year < 1000 ∨ (∃ m, d.month = some m ∧ ¬(1 ≤ m ∧ m ≤ 12)) ∨
    ∃ n, d.day = some n ∧ ¬(1 ≤ n ∧ n ≤ 31)

/-- The parts that are given, in the order in which they are checked. -/
def givenParts (d : DateLabel) : List (DatePart × Nat) :=
  (.year, d.year) :: d.month.toList.map (.month, ·) ++ d.day.toList.map (.day, ·)

/-- The first part that is out of range. -/
def fault? (d : DateLabel) : Option (DatePart × Nat) :=
  d.givenParts.find? fun part => ¬part.1.Allows part.2

theorem forM_checkPart (parts : List (DatePart × Nat)) :
    (forM parts fun part => checkPart part.1 part.2) =
      match parts.find? fun part => ¬part.1.Allows part.2 with
      | none => .ok ()
      | some (part, found) => .error (.invalidDate part found) := by
  induction parts with
  | nil => rfl
  | cons part parts ih =>
    rw [List.forM_cons, ih, checkPart, List.find?_cons]
    by_cases hpart : part.1.Allows part.2
    · simp only [hpart, if_true, not_true_eq_false, decide_false]
      rfl
    · simp only [hpart, if_false, not_false_eq_true, decide_true]
      rfl

/-- What is reported is the first part that is out of range. -/
theorem ofParts_eq (d : DateLabel) :
    ofParts d.year d.month d.day =
      match d.fault? with
      | none => .ok d
      | some (part, found) => .error (.invalidDate part found) := by
  have hsteps : ofParts d.year d.month d.day =
      (do forM d.givenParts fun part => checkPart part.1 part.2; pure d) := by
    obtain ⟨year, month, day⟩ := d
    cases month <;> cases day <;> simp [ofParts, givenParts, checkPart?] <;> rfl
  rw [hsteps, forM_checkPart, fault?]
  split <;> rfl

theorem fault?_eq_none_iff {d : DateLabel} : d.fault? = none ↔ d.WellFormed := by
  have hparts : d.fault? = none ↔ ∀ part ∈ d.givenParts, part.1.Allows part.2 := by
    simp [fault?, List.find?_eq_none]
  rw [hparts]
  constructor
  · intro h
    refine ⟨h (.year, d.year) (by simp [givenParts]), ?_, ?_⟩
    · intro m hm
      exact h (.month, m) (by simp [givenParts, hm])
    · intro n hn
      exact h (.day, n) (by simp [givenParts, hn])
  · intro h part hpart
    simp only [givenParts, List.cons_append, List.mem_cons, List.mem_append, List.mem_map,
      Option.mem_toList] at hpart
    rcases hpart with rfl | ⟨m, hm, rfl⟩ | ⟨n, hn, rfl⟩
    · exact h.year
    · exact h.month m hm
    · exact h.day n hn

/-- The label with its year in 16 bits and its month and day in 8 bits each. -/
def narrowed (d : DateLabel) : DateLabel :=
  ⟨(UInt16.ofNat d.year).toNat, d.month.map fun m => (UInt8.ofNat m).toNat,
    d.day.map fun n => (UInt8.ofNat n).toNat⟩

/-- What is in range is kept when it is narrowed. -/
theorem WellFormed.narrowed_eq {d : DateLabel} (h : d.WellFormed) : d.narrowed = d := by
  obtain ⟨year, month, day⟩ := d
  have hyear : 1000 ≤ (year : Int) ∧ (year : Int) ≤ 9999 := h.year
  have hmonth : month.map (fun m => (UInt8.ofNat m).toNat) = month := by
    cases month with
    | none => rfl
    | some m =>
      have hallows : 1 ≤ (m : Int) ∧ (m : Int) ≤ 12 := h.month m rfl
      exact congrArg some (UInt8.toNat_ofNat_of_lt' (show m < 256 by omega))
  have hday : day.map (fun n => (UInt8.ofNat n).toNat) = day := by
    cases day with
    | none => rfl
    | some n =>
      have hallows : 1 ≤ (n : Int) ∧ (n : Int) ≤ 31 := h.day n rfl
      exact congrArg some (UInt8.toNat_ofNat_of_lt' (show n < 256 by omega))
  rw [narrowed, hmonth, hday, UInt16.toNat_ofNat_of_lt' (show year < 65536 by omega)]

end DateLabel

namespace DateSpelling

/-- The text is made of the digits and the hyphens between them. -/
def Spells (s : DateSpelling) (text : List Char) : Prop := s.Shaped ∧ s.parts = text

theorem Shaped.year_lt {s : DateSpelling} (h : s.Shaped) : s.label.year < 10 ^ 4 := by
  have hrow : ∀ {y : List Char}, DigitRow 4 y → digitsValue y < 10 ^ 4 := by
    rintro y ⟨hlength, hdigits⟩
    exact hlength ▸ digitsValue_lt hdigits
  cases s with
  | year y => exact hrow h
  | month y m => exact hrow h.1
  | day y m d => exact hrow h.1

theorem Shaped.outOfRange_iff {s : DateSpelling} (h : s.Shaped) :
    s.label.OutOfRange ↔ ¬s.label.WellFormed := by
  have hyear := h.year_lt
  constructor
  · rintro (hlow | ⟨m, hm, hmonth⟩ | ⟨n, hn, hday⟩) hformed
    · have hallows : 1000 ≤ (s.label.year : Int) ∧ (s.label.year : Int) ≤ 9999 := hformed.year
      omega
    · have hallows : 1 ≤ (m : Int) ∧ (m : Int) ≤ 12 := hformed.month m hm
      omega
    · have hallows : 1 ≤ (n : Int) ∧ (n : Int) ≤ 31 := hformed.day n hn
      omega
  · intro hformed
    by_contra hrange
    simp only [DateLabel.OutOfRange, not_or, not_exists, not_and] at hrange
    obtain ⟨hlow, hmonth, hday⟩ := hrange
    apply hformed
    refine ⟨?_, ?_, ?_⟩
    · exact ⟨by omega, by omega⟩
    · intro m hm
      have := hmonth m hm
      exact ⟨by omega, by omega⟩
    · intro n hn
      have := hday n hn
      exact ⟨by omega, by omega⟩

theorem Shaped.eq_of_label {r s : DateSpelling} (hr : r.Shaped) (hs : s.Shaped)
    (h : r.label = s.label) : r = s := by
  cases r with
  | year y =>
    cases s with
    | year y' => rw [hr.eq_of_value hs (congrArg DateLabel.year h)]
    | month _ _ | day _ _ _ => cases congrArg DateLabel.month h
  | month y m =>
    cases s with
    | month y' m' =>
      rw [hr.1.eq_of_value hs.1 (congrArg DateLabel.year h),
        hr.2.eq_of_value hs.2 (Option.some.inj (congrArg DateLabel.month h))]
    | year _ => cases congrArg DateLabel.month h
    | day _ _ _ => cases congrArg DateLabel.day h
  | day y m d =>
    cases s with
    | day y' m' d' =>
      rw [hr.1.eq_of_value hs.1 (congrArg DateLabel.year h),
        hr.2.1.eq_of_value hs.2.1 (Option.some.inj (congrArg DateLabel.month h)),
        hr.2.2.eq_of_value hs.2.2 (Option.some.inj (congrArg DateLabel.day h))]
    | year _ | month _ _ => cases congrArg DateLabel.day h

/-- What is written for the label of a spelling is the spelling, digit by digit. -/
theorem WellFormed.chars_label {s : DateSpelling} (h : s.WellFormed) : s.label.chars = s.chars := by
  obtain ⟨r, hr, hchars, hlabel⟩ := DateLabel.exists_spelling h.2
  rw [DateLabel.written_eq_self s.not_orphanDay_label] at hlabel
  rw [← hchars, hr.1.eq_of_label h.1 hlabel]

end DateSpelling

namespace Axis

theorem complete_eq_ok_iff {α : Type} {reader : Reader α} {text : List Char} {value : α} :
    complete reader text = .ok value ↔ reader text = .ok (value, []) := by
  unfold complete
  constructor
  · intro h
    split at h
    · next hread =>
      cases h
      exact hread
    · cases h
    · cases h
  · intro h
    rw [h]

/-- A text is a complete date exactly if it has a spelling. -/
theorem complete_readDateParts_eq_ok_iff {text : List Char} {year : Nat} {month day : Option Nat} :
    complete readDateParts text = .ok (year, month, day) ↔
      ∃ s : DateSpelling, s.Spells text ∧ s.label = ⟨year, month, day⟩ := by
  rw [complete_eq_ok_iff]
  constructor
  · intro h
    obtain ⟨s, hs, htext, hlabel⟩ := eq_of_readDateParts h
    exact ⟨s, ⟨hs, by rw [htext, List.append_nil]⟩, hlabel⟩
  · rintro ⟨s, ⟨hs, rfl⟩, hlabel⟩
    have hread := readDateParts_append hs (opens_nil _)
    rw [List.append_nil, hlabel] at hread
    exact hread

end Axis

namespace DateLabel

open Axis

variable {text : String} {inner : List Char}

/-- What the digits denote is checked, and nothing else. -/
theorem parse_of_spells {s : DateSpelling} (h : Unquoted (trim text.toList) inner)
    (hs : s.Spells inner) : parse text = ofParts s.label.year s.label.month s.label.day := by
  obtain rfl := (unquoted_unquote _).unique h
  rw [parse, complete_readDateParts_eq_ok_iff.mpr ⟨s, hs, rfl⟩]
  rfl

theorem parse_unreadable (h : Unquoted (trim text.toList) inner)
    (hunread : ∀ s : DateSpelling, ¬s.Spells inner) :
    ∃ error, parse text = .error (.unreadable error) := by
  obtain rfl := (unquoted_unquote _).unique h
  cases hread : complete readDateParts (unquote (trim text.toList)) with
  | error e =>
    obtain ⟨error, rfl⟩ := eq_unreadable_of_complete hread
    refine ⟨error, ?_⟩
    rw [parse, hread]
    rfl
  | ok parts =>
    obtain ⟨s, hs, -⟩ := complete_readDateParts_eq_ok_iff.mp hread
    exact absurd hs (hunread s)

/-- There is a spelling unless the text cannot be read. -/
theorem exists_spells (h : Unquoted (trim text.toList) inner)
    (hread : ∀ error, parse text ≠ .error (.unreadable error)) :
    ∃ s : DateSpelling, s.Spells inner := by
  by_contra hnone
  rw [not_exists] at hnone
  obtain ⟨error, herror⟩ := parse_unreadable h hnone
  exact hread error herror

theorem parse_eq_unreadable_iff (h : Unquoted (trim text.toList) inner) :
    (∃ error, parse text = .error (.unreadable error)) ↔
      ∀ s : DateSpelling, ¬s.Spells inner := by
  refine ⟨?_, parse_unreadable h⟩
  rintro ⟨error, herror⟩ s hs
  rw [parse_of_spells h hs, ofParts_eq] at herror
  split at herror <;> cases herror

theorem parse_eq_invalidDate_iff (h : Unquoted (trim text.toList) inner) {part : DatePart}
    {found : Int} :
    parse text = .error (.invalidDate part found) ↔
      ∃ (s : DateSpelling) (n : Nat), s.Spells inner ∧ s.label.fault? = some (part, n) ∧
        n = found := by
  constructor
  · intro hparse
    obtain ⟨s, hs⟩ := exists_spells h (by rw [hparse]; nofun)
    rw [parse_of_spells h hs, ofParts_eq] at hparse
    split at hparse
    · cases hparse
    · next hfirst =>
      cases hparse
      exact ⟨s, _, hs, hfirst, rfl⟩
  · rintro ⟨s, n, hs, hfirst, rfl⟩
    rw [parse_of_spells h hs, ofParts_eq, hfirst]

theorem parse_eq_ok_iff (h : Unquoted (trim text.toList) inner) {d : DateLabel} :
    parse text = .ok d ↔ ∃ s : DateSpelling, s.Spells inner ∧ s.label.WellFormed ∧ s.label = d := by
  constructor
  · intro hparse
    obtain ⟨s, hs⟩ := exists_spells h (by rw [hparse]; nofun)
    rw [parse_of_spells h hs] at hparse
    obtain ⟨rfl, hformed⟩ := eq_of_ofParts hparse
    exact ⟨s, hs, hformed, rfl⟩
  · rintro ⟨s, hs, hformed, rfl⟩
    rw [parse_of_spells h hs, ofParts_label hformed]

theorem exists_invalidDate_iff (h : Unquoted (trim text.toList) inner) :
    (∃ part found, parse text = .error (.invalidDate part found)) ↔
      ∃ s : DateSpelling, s.Spells inner ∧ s.label.OutOfRange := by
  simp only [parse_eq_invalidDate_iff h]
  constructor
  · rintro ⟨part, found, s, n, hs, hfirst, -⟩
    refine ⟨s, hs, ?_⟩
    rw [hs.1.outOfRange_iff, ← fault?_eq_none_iff, hfirst]
    nofun
  · rintro ⟨s, hs, hrange⟩
    rw [hs.1.outOfRange_iff, ← fault?_eq_none_iff] at hrange
    obtain ⟨⟨part, n⟩, hfirst⟩ := Option.ne_none_iff_exists'.mp hrange
    exact ⟨part, n, s, n, hs, hfirst, rfl⟩

/-- A label is read back from what is written for it unless it has a day without a month. -/
theorem parse_chars_iff {d : DateLabel} (h : d.WellFormed) :
    parse (String.ofList d.chars) = .ok d ↔ ¬d.OrphanDay := by
  have hinner : Unquoted (trim (String.ofList d.chars).toList) d.parts := by
    rw [String.toList_ofList]
    exact unquoted_trim d.parts
  rw [parse_eq_ok_iff hinner]
  constructor
  · rintro ⟨s, -, -, rfl⟩
    exact s.not_orphanDay_label
  · intro horphan
    obtain ⟨s, hs, hchars, hlabel⟩ := exists_spelling h
    rw [written_eq_self horphan] at hlabel
    refine ⟨s, ⟨hs.1, ?_⟩, hs.2, hlabel⟩
    exact List.append_cancel_right (List.cons.inj hchars).2

end DateLabel

namespace SubsetSpelling

open Axis

/-- The name of a subset with a single date ends at the parenthesis, and its date is all that
stands between the outermost quotes, which are found from the two ends. -/
theorem WellFormed.eq_of_quoted {s : SubsetSpelling} (hs : s.WellFormed)
    {before after name inner : List Char} {date : DateSpelling} (hname : Word name)
    (hrange : s.range = ⟨⟨before, .date date, after⟩, none⟩)
    (hchars : s.chars = name ++ '(' :: '"' :: inner ++ ['"', ')']) :
    s.name = name ∧ date.parts = inner := by
  obtain ⟨hword, hgap, hspaced, htail⟩ := hs
  rw [hrange] at hspaced
  have heq : s.name ++ (s.gap ++ '(' :: (before ++ '"' :: (date.parts ++
      '"' :: (after ++ ')' :: s.tail)))) =
      name ++ ([] ++ '(' :: ([] ++ '"' :: (inner ++ '"' :: ([] ++ ')' :: [])))) := by
    simpa [SubsetSpelling.chars, hrange, RangeSpelling.chars, RangeSpelling.highChars,
      SpacedBound.chars, BoundSpelling.chars, DateSpelling.chars] using hchars
  obtain ⟨hsame, heq⟩ := recovers_run hword.2 hname.2 _ _ (opens_gap hgap _)
    (opens_gap gap_nil _) heq
  obtain ⟨-, heq⟩ := (recovers_run hgap gap_nil).before (by decide) heq
  obtain ⟨-, heq⟩ := (recovers_run hspaced.low.before gap_nil).before (by decide) heq
  have hback : s.tail.reverse ++ ')' :: (after.reverse ++ '"' :: date.parts.reverse) =
      [] ++ ')' :: ([] ++ '"' :: inner.reverse) := by
    simpa using congrArg List.reverse heq
  have hreverse : ∀ {gap : List Char}, Gap gap → Gap gap.reverse :=
    fun hgap c hc => hgap c (List.mem_reverse.mp hc)
  obtain ⟨-, hback⟩ := (recovers_run (hreverse htail) gap_nil).before (by decide) hback
  obtain ⟨-, hback⟩ := (recovers_run (hreverse hspaced.low.after) gap_nil).before (by decide)
    hback
  exact ⟨hsame, List.reverse_injective hback⟩

theorem exists_of_point {s : SubsetSpelling} {d : DateLabel}
    (h : s.subset.range = .point (.date d)) :
    ∃ before date after, s.range = ⟨⟨before, .date date, after⟩, none⟩ ∧ date.label = d := by
  obtain ⟨name, gap, ⟨⟨before, bound, after⟩, high⟩, tail⟩ := s
  cases high with
  | some b => cases h
  | none =>
    cases bound with
    | number n => cases h
    | date date => exact ⟨before, date, after, rfl, Bound.date.inj (AxisRange.point.inj h)⟩

end SubsetSpelling

namespace DateLabel

open Axis

variable {name inner : String} {d : DateLabel}

theorem parse_quoted_iff :
    parse ("\"" ++ inner ++ "\"") = .ok d ↔
      ∃ s : DateSpelling, s.Spells inner.toList ∧ s.label.WellFormed ∧ s.label = d := by
  have htext : ("\"" ++ inner ++ "\"").toList = '"' :: inner.toList ++ ['"'] := by simp
  exact parse_eq_ok_iff (htext ▸ unquoted_trim inner.toList)

theorem trim_pointText (hname : Word name.toList) :
    trim (name ++ "(\"" ++ inner ++ "\")").toList =
      name.toList ++ '(' :: '"' :: inner.toList ++ ['"', ')'] := by
  have htext : (name ++ "(\"" ++ inner ++ "\")").toList =
      name.toList ++ '(' :: '"' :: inner.toList ++ ['"', ')'] := by simp
  rw [htext]
  apply trim_eq_self
  · rw [List.append_assoc]
    exact (hname.begins.append _).opens.imp fun _ => isBlank_of_isWordChar
  · rw [List.reverse_append]
    exact (opens_cons _ _ _).mpr (by decide)

/-- A single date between the parentheses of a subset is read as it is read on its own. -/
theorem parse_point_iff (hname : Word name.toList) {a : AxisSubset} :
    AxisSubset.parse (name ++ "(\"" ++ inner ++ "\")") = .ok a ∧ a.range = .point (.date d) ↔
      parse ("\"" ++ inner ++ "\"") = .ok d ∧ a = ⟨name, .point (.date d)⟩ := by
  rw [parse_quoted_iff]
  constructor
  · rintro ⟨hparse, hpoint⟩
    have houtcome := AxisSubset.outcome_parse (name ++ "(\"" ++ inner ++ "\")")
    rw [hparse] at houtcome
    cases houtcome with
    | @accepted s hreads _ _ =>
      obtain ⟨hs, hchars⟩ := hreads
      rw [trim_pointText hname] at hchars
      obtain ⟨before, date, after, hrange, rfl⟩ := SubsetSpelling.exists_of_point hpoint
      obtain ⟨hsame, hparts⟩ := hs.eq_of_quoted hname hrange hchars
      have hlow := hs.range.low.bound
      rw [hrange] at hlow
      refine ⟨⟨date, ⟨hlow.1, hparts⟩, hlow.2, rfl⟩, ?_⟩
      rw [← hpoint, SubsetSpelling.subset, hsame, String.ofList_toList]
  · rintro ⟨⟨s, ⟨hs, hparts⟩, hformed, rfl⟩, rfl⟩
    refine ⟨?_, rfl⟩
    have hreads : SubsetSpelling.Reads ⟨name.toList, [], ⟨⟨[], .date s, []⟩, none⟩, []⟩
        (name ++ "(\"" ++ inner ++ "\")") := by
      have hrange : RangeSpelling.WellFormed ⟨⟨[], .date s, []⟩, none⟩ := by
        refine ⟨⟨gap_nil, ⟨hs, hformed⟩, gap_nil⟩, ?_⟩
        rintro _ ⟨⟩
      refine ⟨⟨hname, gap_nil, hrange, gap_nil⟩, ?_⟩
      rw [trim_pointText hname, ← hparts]
      simp [SubsetSpelling.chars, RangeSpelling.chars, RangeSpelling.highChars,
        SpacedBound.chars, BoundSpelling.chars, DateSpelling.chars]
    have hparse := AxisSubset.parse_accepted hreads trivial
      (AxisRange.forall_bounds_point.mpr trivial)
    rwa [SubsetSpelling.subset, String.ofList_toList] at hparse

/-- The reader of dates, the writer and the reader of axis subsets agree: a text is read by its
digits alone, what is read is written digit by digit, what is written is read back unless it has a
day without a month, and a subset has the date that is read on its own. -/
theorem parse_agrees :
    (∀ text, ∃ inner, Unquoted (trim text.toList) inner ∧
      ((∃ error, parse text = .error (.unreadable error)) ↔
        ∀ s : DateSpelling, ¬s.Spells inner) ∧
      ((∃ part found, parse text = .error (.invalidDate part found)) ↔
        ∃ s : DateSpelling, s.Spells inner ∧ s.label.OutOfRange) ∧
      (∀ d, parse text = .ok d ↔
        ∃ s : DateSpelling, s.Spells inner ∧ ¬s.label.OutOfRange ∧ s.label = d) ∧
      ∀ d, parse text = .ok d → d.narrowed = d ∧ d.chars = '"' :: inner ++ ['"']) ∧
    (∀ year month day d, ofParts year month day = .ok d →
      (parse (String.ofList d.chars) = .ok d ↔ ¬d.OrphanDay)) ∧
    ∀ name inner d, Word name.toList →
      ((∃ a, AxisSubset.parse (name ++ "(\"" ++ inner ++ "\")") = .ok a ∧
        a.range = .point (.date d)) ↔ parse ("\"" ++ inner ++ "\"") = .ok d) := by
  refine ⟨fun text => ?_, fun year month day d h => parse_chars_iff (wellFormed_of_ofParts h),
    fun name inner d hname => ?_⟩
  · have hinner := unquoted_unquote (trim text.toList)
    refine ⟨_, hinner, parse_eq_unreadable_iff hinner, exists_invalidDate_iff hinner,
      fun d => ?_, fun d hparse => ?_⟩
    · rw [parse_eq_ok_iff hinner]
      refine exists_congr fun s => and_congr_right fun hs => and_congr_left fun _ => ?_
      rw [hs.1.outOfRange_iff, not_not]
    · obtain ⟨s, hs, hformed, rfl⟩ := (parse_eq_ok_iff hinner).mp hparse
      have hchars : s.label.chars = s.chars := DateSpelling.WellFormed.chars_label ⟨hs.1, hformed⟩
      refine ⟨hformed.narrowed_eq, ?_⟩
      rw [hchars, DateSpelling.chars, hs.2]
  · constructor
    · rintro ⟨a, h⟩
      exact ((parse_point_iff hname).mp h).1
    · intro h
      exact ⟨_, (parse_point_iff hname).mpr ⟨h, rfl⟩⟩

/-- A month is read back and is found in a subset too, and there are only twelve. -/
theorem parse_agrees_month :
    (∃ d, ofParts 2014 (some 7) none = .ok d ∧ parse (String.ofList d.chars) = .ok d) ∧
    (∃ a, AxisSubset.parse ("ansi" ++ "(\"" ++ "2014-07" ++ "\")") = .ok a ∧
      a.range = .point (.date ⟨2014, some 7, none⟩)) ∧
    ∃ part found, parse " 2014-13 " = .error (.invalidDate part found) := by
  refine ⟨⟨_, rfl, ?_⟩, ?_, ?_⟩
  · exact (parse_agrees.2.1 2014 (some 7) none _ rfl).mpr (by decide)
  · exact (parse_agrees.2.2 "ansi" "2014-07" ⟨2014, some 7, none⟩ (by decide)).mpr rfl
  · obtain ⟨inner, hinner, -, hinvalid, -⟩ := parse_agrees.1 " 2014-13 "
    obtain rfl := hinner.unique (unquoted_unquote _)
    refine hinvalid.mpr ⟨.month ['2', '0', '1', '4'] ['1', '3'], ⟨by decide, by decide⟩, ?_⟩
    exact .inr (.inl ⟨13, rfl, by decide⟩)

end DateLabel

end CoverageQuery
