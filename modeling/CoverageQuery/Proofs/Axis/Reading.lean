import CoverageQuery.Proofs.Axis.Spelling
import CoverageQuery.Proofs.Steps

/-!
# The readers and the spellings

Each reader finds every well-formed spelling that is followed by something the spelling cannot go
on with, and all that it finds is spelled at the front of the text. What an optional part leaves
unread when it is not complete is no spelling either.
-/

namespace CoverageQuery.Axis

open Text

section Tokens

theorem skipGap_append {gap rest : List Char} (hgap : Gap gap)
    (hrest : Opens (isGap · = false) rest) : skipGap (gap ++ rest) = rest :=
  dropWhile_run hgap hrest

theorem exists_gap (text : List Char) : ∃ gap, Gap gap ∧ text = gap ++ skipGap text :=
  ⟨text.takeWhile isGap, forall_takeWhile isGap text, List.takeWhile_append_dropWhile.symm⟩

@[simp] theorem expect_cons (c : Char) (rest : List Char) : expect c (c :: rest) = .ok rest :=
  if_pos rfl

theorem eq_of_expect {c : Char} {text rest : List Char} (h : expect c text = .ok rest) :
    text = c :: rest := by
  cases text with
  | nil => cases h
  | cons d tail =>
    rw [expect] at h
    split at h
    · next heq =>
      cases h
      rw [heq]
    · cases h

theorem readName_append {name rest : List Char} (hname : Word name)
    (hrest : Opens (isWordChar · = false) rest) :
    readName (name ++ rest) = .ok (String.ofList name, rest) := by
  obtain ⟨c, tail, rfl, -⟩ := hname.begins
  rw [readName, takeWhile_run hname.2 hrest, dropWhile_run hname.2 hrest]

theorem eq_of_readName {text rest : List Char} {name : String}
    (h : readName text = .ok (name, rest)) :
    ∃ word, Word word ∧ text = word ++ rest ∧ name = String.ofList word := by
  unfold readName at h
  split at h
  · cases h
  · next hne =>
    cases h
    exact ⟨_, ⟨hne, forall_takeWhile isWordChar text⟩, List.takeWhile_append_dropWhile.symm, rfl⟩

end Tokens

section Dates

theorem readDigits_append {count : Nat} {row : List Char} (hrow : DigitRow count row)
    (rest : List Char) : readDigits count (row ++ rest) = .ok (digitsValue row, rest) := by
  obtain ⟨hlength, hdigits⟩ := hrow
  have htake : (row ++ rest).take count = row := by rw [← hlength, List.take_left]
  have hdrop : (row ++ rest).drop count = rest := by rw [← hlength, List.drop_left]
  rw [readDigits, htake, hdrop, if_pos ⟨hlength, List.all_eq_true.mpr hdigits⟩]

theorem eq_of_readDigits {count value : Nat} {text rest : List Char}
    (h : readDigits count text = .ok (value, rest)) :
    ∃ row, DigitRow count row ∧ text = row ++ rest ∧ value = digitsValue row := by
  unfold readDigits at h
  split at h
  · next hrow =>
    cases h
    exact ⟨text.take count, ⟨hrow.1, List.all_eq_true.mp hrow.2⟩,
      (List.take_append_drop count text).symm, rfl⟩
  · cases h

theorem readPart?_some {row : List Char} (hrow : DigitRow 2 row) (rest : List Char) :
    readPart? ('-' :: row ++ rest) = (some (digitsValue row), rest) := by
  rw [List.cons_append, readPart?, readDigits_append hrow rest]

theorem readPart?_none {text : List Char} (h : Opens (· ≠ '-') text) :
    readPart? text = (none, text) := by
  cases text with
  | nil => rfl
  | cons c rest =>
    rw [readPart?]
    exact fun _ heq => (opens_cons _ c rest).mp h (List.cons.inj heq).1

theorem eq_of_readPart? {text rest : List Char} {part : Option Nat}
    (h : readPart? text = (part, rest)) :
    part = none ∧ text = rest ∨
      ∃ row, DigitRow 2 row ∧ text = '-' :: row ++ rest ∧ part = some (digitsValue row) := by
  unfold readPart? at h
  split at h
  · split at h
    · next hread =>
      cases h
      obtain ⟨row, hrow, rfl, rfl⟩ := eq_of_readDigits hread
      exact .inr ⟨row, hrow, rfl, rfl⟩
    · cases h
      exact .inl ⟨rfl, rfl⟩
  · cases h
    exact .inl ⟨rfl, rfl⟩

theorem readDateParts_append {s : DateSpelling} (hs : s.Shaped) {rest : List Char}
    (hrest : Opens (· ≠ '-') rest) :
    readDateParts (s.parts ++ rest) = .ok ((s.label.year, s.label.month, s.label.day), rest) := by
  cases s with
  | year y =>
    have hyear : readDigits 4 (y ++ rest) = .ok (digitsValue y, rest) := readDigits_append hs rest
    simp only [readDateParts, DateSpelling.parts, DateSpelling.rows, joined_singleton, hyear,
      readPart?_none hrest, DateSpelling.label, bind, Except.bind]
  | month y m =>
    obtain ⟨hy, hm⟩ := hs
    have htext : (DateSpelling.month y m).parts ++ rest = y ++ ('-' :: m ++ rest) := by
      simp [DateSpelling.parts, DateSpelling.rows]
    simp only [readDateParts, htext, readDigits_append hy, readPart?_some hm,
      readPart?_none hrest, DateSpelling.label, bind, Except.bind]
  | day y m d =>
    obtain ⟨hy, hm, hd⟩ := hs
    have htext : (DateSpelling.day y m d).parts ++ rest =
        y ++ ('-' :: m ++ ('-' :: d ++ rest)) := by
      simp [DateSpelling.parts, DateSpelling.rows]
    simp only [readDateParts, htext, readDigits_append hy, readPart?_some hm, readPart?_some hd,
      DateSpelling.label, bind, Except.bind]

theorem eq_of_readDateParts {text rest : List Char} {year : Nat} {month day : Option Nat}
    (h : readDateParts text = .ok ((year, month, day), rest)) :
    ∃ s : DateSpelling, s.Shaped ∧ text = s.parts ++ rest ∧ s.label = ⟨year, month, day⟩ := by
  obtain ⟨⟨value, afterYear⟩, hyear, h⟩ := bind_eq_ok_iff.mp h
  obtain ⟨y, hy, rfl, rfl⟩ := eq_of_readDigits hyear
  rcases hmonth : readPart? afterYear with ⟨part, afterMonth⟩
  simp only [hmonth] at h
  rcases eq_of_readPart? hmonth with ⟨rfl, rfl⟩ | ⟨m, hm, rfl, rfl⟩
  · cases h
    exact ⟨.year y, hy, rfl, rfl⟩
  · rcases hday : readPart? afterMonth with ⟨part, afterDay⟩
    simp only [hday] at h
    rcases eq_of_readPart? hday with ⟨rfl, rfl⟩ | ⟨d, hd, rfl, rfl⟩
    · cases h
      exact ⟨.month y m, ⟨hy, hm⟩, by simp [DateSpelling.parts, DateSpelling.rows], rfl⟩
    · cases h
      exact ⟨.day y m d, ⟨hy, hm, hd⟩, by simp [DateSpelling.parts, DateSpelling.rows], rfl⟩

theorem readQuotedDate?_append {s : DateSpelling} (hs : s.WellFormed) (rest : List Char) :
    readQuotedDate? (s.chars ++ rest) = some (s.label, rest) := by
  have htext : s.chars ++ rest = '"' :: (s.parts ++ '"' :: rest) := by
    simp [DateSpelling.chars]
  have hclosed : Opens (· ≠ '-') ('"' :: rest) := (opens_cons _ _ _).mpr (by decide)
  simp only [htext, readQuotedDate?, readDateParts_append hs.1 hclosed,
    DateLabel.ofParts_label hs.2]

theorem eq_of_readQuotedDate? {text rest : List Char} {date : DateLabel}
    (h : readQuotedDate? text = some (date, rest)) :
    ∃ s : DateSpelling, s.WellFormed ∧ text = s.chars ++ rest ∧ s.label = date := by
  unfold readQuotedDate? at h
  split at h
  · split at h
    · next hread =>
      split at h
      · next hdate =>
        cases h
        obtain ⟨s, hs, rfl, hlabel⟩ := eq_of_readDateParts hread
        obtain ⟨rfl, hformed⟩ := DateLabel.eq_of_ofParts hdate
        exact ⟨s, ⟨hs, hlabel ▸ hformed⟩, by simp [DateSpelling.chars], hlabel⟩
      · cases h
    · cases h
  · cases h

end Dates

section Bounds

theorem readNumber_append {n : Numeral} (hn : n.WellFormed) (hfits : n.Fits) {rest : List Char}
    (hrest : Opens Numeral.Stops rest) : readNumber (n.chars ++ rest) = .ok (n.number, rest) := by
  have hvalue : n.number? = some n.number := Numeral.number?_eq_some_iff.mpr ⟨hfits, rfl⟩
  simp only [readNumber, Numeral.read?_chars hn hrest, hvalue]

theorem eq_of_readNumber {text rest : List Char} {x : Number}
    (h : readNumber text = .ok (x, rest)) :
    ∃ n : Numeral, n.WellFormed ∧ n.Fits ∧ text = n.chars ++ rest ∧ n.number = x := by
  unfold readNumber at h
  split at h
  · cases h
  · next n _ hread =>
    split at h
    · next hvalue =>
      cases h
      obtain ⟨hn, htext⟩ := Numeral.eq_chars_of_read? hread
      obtain ⟨hfits, hnumber⟩ := Numeral.number?_eq_some_iff.mp hvalue
      exact ⟨n, hn, hfits, htext, hnumber⟩
    · cases h

theorem readQuotedDate?_none {text : List Char} (h : Opens (· ≠ '"') text) :
    readQuotedDate? text = none := by
  cases text with
  | nil => rfl
  | cons c rest =>
    rw [readQuotedDate?]
    exact fun _ heq => (opens_cons _ c rest).mp h (List.cons.inj heq).1

theorem readBound_append {b : BoundSpelling} (hb : b.WellFormed) {rest : List Char}
    (hrest : Opens Numeral.Stops rest) : readBound (b.chars ++ rest) = .ok (b.value, rest) := by
  cases b with
  | date s =>
    have hread : readQuotedDate? (s.chars ++ rest) = some (s.label, rest) :=
      readQuotedDate?_append hb rest
    simp only [readBound, BoundSpelling.chars, hread, BoundSpelling.value]
  | number n =>
    obtain ⟨hn, hfits⟩ := hb
    have hunquoted : readQuotedDate? (n.chars ++ rest) = none := by
      refine readQuotedDate?_none ((hn.begins.append rest).opens.imp ?_)
      rintro c hc rfl
      exact absurd hc (by decide)
    simp only [readBound, BoundSpelling.chars, hunquoted, readNumber_append hn hfits hrest,
      BoundSpelling.value, bind, Except.bind]

theorem eq_of_readBound {text rest : List Char} {bound : Bound}
    (h : readBound text = .ok (bound, rest)) :
    ∃ b : BoundSpelling, b.WellFormed ∧ text = b.chars ++ rest ∧ b.value = bound := by
  unfold readBound at h
  split at h
  · next hdate =>
    cases h
    obtain ⟨s, hs, htext, hlabel⟩ := eq_of_readQuotedDate? hdate
    exact ⟨.date s, hs, htext, congrArg Bound.date hlabel⟩
  · obtain ⟨⟨x, afterNumber⟩, hnumber, h⟩ := bind_eq_ok_iff.mp h
    cases h
    obtain ⟨n, hn, hfits, htext, hvalue⟩ := eq_of_readNumber hnumber
    exact ⟨.number n, ⟨hn, hfits⟩, htext, congrArg Bound.number hvalue⟩

theorem readSpacedBound_append {b : SpacedBound} (hb : b.WellFormed) {rest : List Char}
    (hrest : Opens SpacedBound.Ends rest) :
    readSpacedBound (b.chars ++ rest) = .ok (b.bound.value, rest) := by
  obtain ⟨before, bound, after⟩ := b
  obtain ⟨hbefore, hbound, hafter⟩ := hb
  have htext : SpacedBound.chars ⟨before, bound, after⟩ ++ rest =
      before ++ (bound.chars ++ (after ++ rest)) := by
    simp [SpacedBound.chars]
  have hstart : Opens (isGap · = false) (bound.chars ++ (after ++ rest)) :=
    (hbound.begins.append _).opens.imp fun _ => BoundSpelling.not_isGap_of_starts
  have hread : readBound (bound.chars ++ (after ++ rest)) = .ok (bound.value, after ++ rest) :=
    readBound_append hbound (SpacedBound.opens_stops hafter hrest)
  have hend : skipGap (after ++ rest) = rest :=
    skipGap_append hafter (hrest.imp fun _ => SpacedBound.not_isGap_of_ends)
  simp only [readSpacedBound, htext, skipGap_append hbefore hstart, hread, hend, bind, Except.bind]

theorem eq_of_readSpacedBound {text rest : List Char} {bound : Bound}
    (h : readSpacedBound text = .ok (bound, rest)) :
    ∃ b : SpacedBound, b.WellFormed ∧ text = b.chars ++ rest ∧ b.bound.value = bound := by
  obtain ⟨⟨value, afterBound⟩, hbound, h⟩ := bind_eq_ok_iff.mp h
  cases h
  obtain ⟨before, hbefore, htext⟩ := exists_gap text
  obtain ⟨b, hb, hstart, hvalue⟩ := eq_of_readBound hbound
  obtain ⟨after, hafter, hend⟩ := exists_gap afterBound
  refine ⟨⟨before, b, after⟩, ⟨hbefore, hb, hafter⟩, ?_, hvalue⟩
  simp only [SpacedBound.chars, List.append_assoc]
  rw [← hend, ← hstart]
  exact htext

end Bounds

section Subsets

theorem readHigh?_append {high : Option SpacedBound} (hhigh : ∀ b, high = some b → b.WellFormed)
    (rest : List Char) :
    readHigh? (RangeSpelling.highChars high ++ ')' :: rest) =
      (high.map (·.bound.value), ')' :: rest) := by
  cases high with
  | none => rfl
  | some b =>
    have hread : readSpacedBound (b.chars ++ ')' :: rest) = .ok (b.bound.value, ')' :: rest) :=
      readSpacedBound_append (hhigh b rfl) ((opens_cons _ _ _).mpr (.inr rfl))
    simp only [RangeSpelling.highChars, List.cons_append, readHigh?, hread, Option.map_some]

theorem eq_of_readHigh? {text rest : List Char} {bound : Option Bound}
    (h : readHigh? text = (bound, rest)) :
    ∃ high : Option SpacedBound, (∀ b, high = some b → b.WellFormed) ∧
      text = RangeSpelling.highChars high ++ rest ∧ high.map (·.bound.value) = bound := by
  unfold readHigh? at h
  split at h
  · split at h
    · next hread =>
      cases h
      obtain ⟨b, hb, rfl, rfl⟩ := eq_of_readSpacedBound hread
      refine ⟨some b, ?_, rfl, rfl⟩
      rintro _ ⟨⟩
      exact hb
    · cases h
      exact ⟨none, nofun, rfl, rfl⟩
  · cases h
    exact ⟨none, nofun, rfl, rfl⟩

theorem readRange_append {r : RangeSpelling} (hr : r.WellFormed) (rest : List Char) :
    readRange (r.chars ++ ')' :: rest) = .ok (r.range, ')' :: rest) := by
  obtain ⟨low, high⟩ := r
  have hlow := readSpacedBound_append hr.low (RangeSpelling.opens_highChars high rest)
  simp only [readRange, RangeSpelling.chars, List.append_assoc, hlow, readHigh?_append hr.high,
    bind, Except.bind]
  cases high <;> rfl

theorem eq_of_readRange {text rest : List Char} {range : AxisRange}
    (h : readRange text = .ok (range, rest)) :
    ∃ r : RangeSpelling, r.WellFormed ∧ text = r.chars ++ rest ∧ r.range = range := by
  obtain ⟨⟨bound, afterLow⟩, hlow, h⟩ := bind_eq_ok_iff.mp h
  obtain ⟨low, hlowFormed, rfl, rfl⟩ := eq_of_readSpacedBound hlow
  rcases hread : readHigh? afterLow with ⟨found, last⟩
  obtain ⟨high, hhigh, rfl, rfl⟩ := eq_of_readHigh? hread
  simp only [hread] at h
  refine ⟨⟨low, high⟩, ⟨hlowFormed, hhigh⟩, ?_⟩
  cases high <;> cases h <;> simp [RangeSpelling.chars, RangeSpelling.range]

theorem readSubset_chars {s : SubsetSpelling} (hs : s.WellFormed) :
    readSubset s.chars = .ok ((s.subset.name, s.subset.range), []) := by
  obtain ⟨name, gap, range, tail⟩ := s
  have hname := readName_append hs.name
    (SubsetSpelling.opens_gap hs.gap (range.chars ++ ')' :: tail))
  have hgap : skipGap (gap ++ '(' :: (range.chars ++ ')' :: tail)) =
      '(' :: (range.chars ++ ')' :: tail) :=
    skipGap_append hs.gap ((opens_cons _ _ _).mpr (by decide))
  have htail : skipGap (tail ++ []) = [] := skipGap_append hs.tail (opens_nil _)
  rw [List.append_nil] at htail
  simp only [readSubset, SubsetSpelling.chars, hname, hgap, expect_cons,
    readRange_append hs.range, htail, SubsetSpelling.subset, bind, Except.bind]

theorem eq_of_readSubset {text rest : List Char} {name : String} {range : AxisRange}
    (h : readSubset text = .ok ((name, range), rest)) :
    ∃ s : SubsetSpelling, s.WellFormed ∧ text = s.chars ++ rest ∧ s.subset = ⟨name, range⟩ := by
  obtain ⟨⟨found, afterName⟩, hname, h⟩ := bind_eq_ok_iff.mp h
  obtain ⟨afterOpen, hopen, h⟩ := bind_eq_ok_iff.mp h
  obtain ⟨⟨value, afterRange⟩, hrange, h⟩ := bind_eq_ok_iff.mp h
  obtain ⟨afterClose, hclose, h⟩ := bind_eq_ok_iff.mp h
  cases h
  obtain ⟨word, hword, rfl, rfl⟩ := eq_of_readName hname
  obtain ⟨gap, hgap, hstart⟩ := exists_gap afterName
  obtain ⟨r, hr, rfl, rfl⟩ := eq_of_readRange hrange
  obtain ⟨tail, htail, hend⟩ := exists_gap afterClose
  refine ⟨⟨word, gap, r, tail⟩, ⟨hword, hgap, hr, htail⟩, ?_, rfl⟩
  rw [eq_of_expect hopen, eq_of_expect hclose, hend] at hstart
  rw [hstart]
  simp [SubsetSpelling.chars]

/-- A text is a complete axis subset exactly if it has a spelling. -/
theorem complete_readSubset_eq_ok_iff {text : List Char} {name : String} {range : AxisRange} :
    complete readSubset text = .ok (name, range) ↔
      ∃ s : SubsetSpelling, s.WellFormed ∧ s.chars = text ∧ s.subset = ⟨name, range⟩ := by
  constructor
  · intro h
    unfold complete at h
    split at h
    · next hread =>
      cases h
      obtain ⟨s, hs, htext, hsubset⟩ := eq_of_readSubset hread
      exact ⟨s, hs, by rw [htext, List.append_nil], hsubset⟩
    · cases h
    · cases h
  · rintro ⟨s, hs, rfl, hsubset⟩
    rw [complete, readSubset_chars hs, hsubset]

theorem eq_unreadable_of_complete {α : Type} {reader : Reader α} {text : List Char}
    {e : QueryError} (h : complete reader text = .error e) : ∃ error, e = .unreadable error := by
  unfold complete at h
  split at h
  · cases h
  · cases h
    exact ⟨_, rfl⟩
  · cases h
    exact ⟨_, rfl⟩

end Subsets

end CoverageQuery.Axis
