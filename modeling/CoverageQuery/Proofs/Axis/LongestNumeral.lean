import CoverageQuery.Proofs.Axis.Reading

/-!
# The longest numeral

The reader of numbers goes on as long as a numeral can. Whatever numeral a text begins with, what is
left unread is left of what comes after that numeral, so the numeral that is read is the longest. A
whole one beyond 64 bits is refused where it ends, and is read neither in part nor as a double.
-/

namespace CoverageQuery

open Text

section Words

variable {v : Int} {i : Int64}

theorem int64?_eq_some_iff : int64? v = some i ↔ i.toInt = v := by
  unfold int64?
  rw [Option.ite_none_right_eq_some, Option.some_inj]
  constructor
  · rintro ⟨hrange, rfl⟩
    exact Int64.toInt_ofInt_of_le hrange.1 (Int.lt_of_le_sub_one hrange.2)
  · rintro rfl
    exact ⟨⟨i.minValue_le_toInt, i.toInt_le⟩, Int64.ofInt_toInt i⟩

/-- The integers of 64 bits. -/
theorem exists_toInt_eq_iff : (∃ i : Int64, i.toInt = v) ↔ -2 ^ 63 ≤ v ∧ v ≤ 2 ^ 63 - 1 := by
  constructor
  · rintro ⟨i, rfl⟩
    exact ⟨i.minValue_le_toInt, i.toInt_le⟩
  · rintro ⟨hlow, hhigh⟩
    exact ⟨Int64.ofInt v, Int64.toInt_ofInt_of_le hlow (Int.lt_of_le_sub_one hhigh)⟩

end Words

namespace Numeral

/-- The text begins with the numeral. -/
def Heads (n : Numeral) (text : List Char) : Prop := n.WellFormed ∧ n.chars <+: text

/-- The text is the numeral and then `rest`, and begins with no longer numeral. -/
structure Longest (n : Numeral) (text rest : List Char) : Prop where
  wellFormed : n.WellFormed
  split : text = n.chars ++ rest
  longest : ∀ m : Numeral, m.Heads text → m.chars.length ≤ n.chars.length

/-- A point or an exponent mark is written. -/
def Marked (n : Numeral) : Prop := '.' ∈ n.chars ∨ 'e' ∈ n.chars ∨ 'E' ∈ n.chars

instance (n : Numeral) : Decidable n.Marked := inferInstanceAs (Decidable (_ ∨ _))

theorem WellFormed.marked_iff {n : Numeral} (h : n.WellFormed) : n.Marked ↔ ¬n.IsWhole := by
  have hsign : ∀ c ∈ signChars n.negative, c = '-' := by
    cases n.negative <;> simp [signChars]
  have hdigits : ∀ c ∈ n.whole, c.isDigit = true := h.whole.2
  simp only [Marked, IsWhole, chars_eq, List.mem_append]
  constructor
  · rintro hmark ⟨hfraction, hexponent⟩
    simp only [hfraction, hexponent, fractionChars, exponentChars, List.not_mem_nil,
      or_false] at hmark
    have hother : ∀ c, c ∈ signChars n.negative ∨ c ∈ n.whole → c = '-' ∨ c.isDigit = true :=
      fun c => Or.imp (hsign c) (hdigits c)
    rcases hmark with hc | hc | hc <;> exact absurd (hother _ hc) (by decide)
  · intro hparts
    cases hfraction : n.fraction with
    | some digits => simp [fractionChars]
    | none =>
      cases hexponent : n.exponent with
      | none => exact absurd ⟨hfraction, hexponent⟩ hparts
      | some e =>
        rcases (h.exponent e hexponent).1 with hmark | hmark <;>
          simp [exponentChars, Exponent.chars, hmark]

section Greedy

variable {fraction : Option (List Char)} {exponent : Option Exponent}

theorem takeDigits_append {front : List Char} (h : ∀ c ∈ front, c.isDigit = true)
    (text : List Char) :
    takeDigits (front ++ text) = (front ++ (takeDigits text).1, (takeDigits text).2) := by
  rw [takeDigits, List.takeWhile_append_of_pos h, List.dropWhile_append_of_pos h]
  rfl

theorem opens_takeDigits (text : List Char) : Opens (·.isDigit = false) (takeDigits text).2 := by
  intro c hc
  have hstop := List.head?_dropWhile_not Char.isDigit text
  have hfirst : (text.dropWhile Char.isDigit).head? = some c := hc
  rwa [hfirst] at hstop

theorem takeDigits_suffix (text : List Char) : (takeDigits text).2 <:+ text :=
  List.dropWhile_suffix _

theorem takeFraction_suffix (text : List Char) : (takeFraction text).2 <:+ text :=
  ⟨_, (eq_of_takeFraction (Prod.eta _).symm).1.symm⟩

theorem takeExponent_suffix (text : List Char) : (takeExponent text).2 <:+ text :=
  ⟨_, (eq_of_takeExponent (Prod.eta _).symm).1.symm⟩

/-- More digits may follow those of the fraction: they are read as well. -/
theorem takeFraction_past (h : ∀ digits, fraction = some digits → Digits digits)
    (rest : List Char) : (takeFraction (fractionChars fraction ++ rest)).2 <:+ rest := by
  cases fraction with
  | none => exact takeFraction_suffix rest
  | some digits =>
    obtain ⟨hrest, hmore⟩ := eq_of_takeDigits (Prod.eta (takeDigits rest)).symm
    have hread : takeFraction ('.' :: (digits ++ (takeDigits rest).1) ++ (takeDigits rest).2) =
        (some (digits ++ (takeDigits rest).1), (takeDigits rest).2) :=
      takeFraction_some ((h digits rfl).append hmore) (opens_takeDigits rest)
    rw [List.cons_append, List.append_assoc, ← hrest] at hread
    rw [fractionChars, List.cons_append, hread]
    exact takeDigits_suffix rest

theorem takeExponent_past (h : ∀ e, exponent = some e → e.WellFormed) (rest : List Char) :
    (takeExponent (exponentChars exponent ++ rest)).2 <:+ rest := by
  cases exponent with
  | none => exact takeExponent_suffix rest
  | some e =>
    obtain ⟨hmark, hsign, hdigits⟩ := h e rfl
    obtain ⟨hrest, hmore⟩ := eq_of_takeDigits (Prod.eta (takeDigits rest)).symm
    have hlonger : Exponent.WellFormed { e with digits := e.digits ++ (takeDigits rest).1 } :=
      ⟨hmark, hsign, hdigits.append hmore⟩
    have hread := takeExponent_some hlonger (opens_takeDigits rest)
    rw [Exponent.chars, ← List.append_assoc, List.append_assoc, ← hrest] at hread
    rw [exponentChars, Exponent.chars, hread]
    exact takeDigits_suffix rest

theorem opens_exponent {e : Exponent} (h : e.WellFormed) (rest : List Char) :
    Opens (fun c => c.isDigit = false ∧ c ≠ '.') (e.chars ++ rest) := by
  rcases h.1 with hmark | hmark <;> simp [Exponent.chars, hmark]

/-- A fraction and an exponent are read as far as they go: the exponent stops the fraction, and
where there is none the fraction is the last part. -/
theorem takeParts_past (hfraction : ∀ digits, fraction = some digits → Digits digits)
    (hexponent : ∀ e, exponent = some e → e.WellFormed) (rest : List Char) :
    (takeExponent (takeFraction (fractionChars fraction ++
      (exponentChars exponent ++ rest))).2).2 <:+ rest := by
  cases exponent with
  | none => exact (takeExponent_suffix _).trans (takeFraction_past hfraction rest)
  | some e =>
    have hmark := opens_exponent (hexponent e rfl) rest
    have hread : takeFraction (fractionChars fraction ++ (e.chars ++ rest)) =
        (fraction, e.chars ++ rest) := by
      cases fraction with
      | none => exact takeFraction_none (hmark.imp fun _ hc => hc.2)
      | some digits => exact takeFraction_some (hfraction digits rfl) (hmark.imp fun _ hc => hc.1)
    rw [exponentChars, hread]
    exact takeExponent_past hexponent rest

/-- The same with digits in front, which a fraction or an exponent stops. -/
theorem takeRow_past (hfraction : ∀ digits, fraction = some digits → Digits digits)
    (hexponent : ∀ e, exponent = some e → e.WellFormed) (rest : List Char) :
    (takeExponent (takeFraction (takeDigits (fractionChars fraction ++
      (exponentChars exponent ++ rest))).2).2).2 <:+ rest := by
  by_cases hnone : fraction = none ∧ exponent = none
  · obtain ⟨rfl, rfl⟩ := hnone
    exact ((takeExponent_suffix _).trans (takeFraction_suffix _)).trans (takeDigits_suffix rest)
  · have hpoint : Opens (·.isDigit = false)
        (fractionChars fraction ++ (exponentChars exponent ++ rest)) := by
      cases fraction with
      | some digits => simp [fractionChars]
      | none =>
        cases exponent with
        | none => exact absurd ⟨rfl, rfl⟩ hnone
        | some e => exact (opens_exponent (hexponent e rfl) rest).imp fun _ hc => hc.1
    have hread := takeDigits_run (List.forall_mem_nil _) hpoint
    rw [List.nil_append] at hread
    rw [hread]
    exact takeParts_past hfraction hexponent rest

/-- Where a text begins with a numeral, one is read, and nothing of it is left. -/
theorem read?_past {m : Numeral} (hm : m.WellFormed) (rest : List Char) :
    ∃ n left, read? (m.chars ++ rest) = some (n, left) ∧ left <:+ rest := by
  have hafter := takeRow_past hm.fraction hm.exponent rest
  rw [chars_eq, List.append_assoc, List.append_assoc, List.append_assoc, read?,
    takeMinus_sign m.negative (hm.whole.begins.append _)]
  simp only [takeDigits_append hm.whole.2]
  obtain ⟨c, tail, hcons, -⟩ := hm.whole.begins
  simp only [hcons, List.cons_append]
  exact ⟨_, _, rfl, hafter⟩

end Greedy

section Longest

variable {m n : Numeral} {text rest left : List Char}

theorem longest_of_read? (h : read? text = some (n, rest)) : n.Longest text rest := by
  obtain ⟨hn, hsplit⟩ := eq_chars_of_read? h
  refine ⟨hn, hsplit, ?_⟩
  rintro m ⟨hm, after, rfl⟩
  obtain ⟨n', left, hread, hleft⟩ := read?_past hm after
  rw [h, Option.some.injEq, Prod.mk.injEq] at hread
  obtain ⟨rfl, rfl⟩ := hread
  have hlengths := congrArg List.length hsplit
  rw [List.length_append, List.length_append] at hlengths
  have := hleft.length_le
  omega

theorem Longest.heads (h : n.Longest text rest) : n.Heads text :=
  ⟨h.wellFormed, rest, h.split.symm⟩

theorem Longest.unique (hm : m.Longest text rest) (hn : n.Longest text left) :
    m = n ∧ rest = left := by
  have hlength : m.chars.length = n.chars.length :=
    Nat.le_antisymm (hn.longest m hm.heads) (hm.longest n hn.heads)
  obtain ⟨hchars, hrest⟩ := List.append_inj (hm.split.symm.trans hn.split) hlength
  have hsame : m.chars ++ [] = n.chars ++ [] := by rw [hchars]
  exact ⟨(recovers_chars hm.wellFormed hn.wellFormed [] [] (opens_nil _) (opens_nil _) hsame).1,
    hrest⟩

/-- A numeral is read exactly if it is the longest one. -/
theorem read?_eq_some_iff : read? text = some (n, rest) ↔ n.Longest text rest := by
  refine ⟨longest_of_read?, ?_⟩
  intro h
  obtain ⟨n', left, hread, -⟩ := read?_past h.wellFormed rest
  rw [← h.split] at hread
  obtain ⟨rfl, rfl⟩ := h.unique (longest_of_read? hread)
  exact hread

theorem read?_eq_none_iff : read? text = none ↔ ∀ n : Numeral, ¬n.Heads text := by
  constructor
  · rintro hnone m ⟨hm, after, rfl⟩
    obtain ⟨n, left, hread, -⟩ := read?_past hm after
    rw [hnone] at hread
    cases hread
  · intro h
    cases hread : read? text with
    | none => rfl
    | some found => exact absurd (longest_of_read? hread).heads (h found.1)

end Longest

end Numeral

namespace Axis

open Numeral

variable {n : Numeral} {text rest : List Char}

theorem readNumber_of_longest (h : n.Longest text rest) :
    readNumber text =
      match n.number? with
      | some x => .ok (x, rest)
      | none => .error (.stuck rest .digit) := by
  have hread : read? text = some (n, rest) := read?_eq_some_iff.mpr h
  cases hvalue : n.number? <;> simp only [readNumber, hread, hvalue]

theorem readNumber_of_not_heads (h : ∀ n : Numeral, ¬n.Heads text) :
    readNumber text = .error (.stuck (takeMinus text).2 .digit) := by
  rw [readNumber, read?_eq_none_iff.mpr h]

/-- A number is read exactly if the text begins with a numeral, and then the longest of those that
it begins with decides: one with a point or an exponent mark is read as its double, one without as
an integer of 64 bits, and if it is none of these the text is refused after the numeral. -/
theorem readNumber_maximal (text : List Char) :
    ((∀ n : Numeral, ¬n.Heads text) →
      readNumber text = .error (.stuck (takeMinus text).2 .digit)) ∧
    ((∃ n : Numeral, n.Heads text) →
      ∃! found : Numeral × List Char, found.1.Longest text found.2) ∧
    ∀ (n : Numeral) (rest : List Char), n.Longest text rest →
      (n.Marked → readNumber text = .ok (.float (.ofDecimal n.decimal), rest)) ∧
      (¬n.Marked → -2 ^ 63 ≤ n.wholeValue ∧ n.wholeValue ≤ 2 ^ 63 - 1 →
        ∃ i : Int64, i.toInt = n.wholeValue ∧ readNumber text = .ok (.int i, rest)) ∧
      (¬n.Marked → ¬(-2 ^ 63 ≤ n.wholeValue ∧ n.wholeValue ≤ 2 ^ 63 - 1) →
        readNumber text = .error (.stuck rest .digit)) := by
  refine ⟨readNumber_of_not_heads, ?_, ?_⟩
  · rintro ⟨m, hm, after, rfl⟩
    obtain ⟨n, left, hread, -⟩ := read?_past hm after
    have hlongest := longest_of_read? hread
    refine ⟨(n, left), hlongest, ?_⟩
    rintro ⟨n', left'⟩ h
    obtain ⟨rfl, rfl⟩ := hlongest.unique h
    rfl
  · intro n rest h
    have hmarked := h.wellFormed.marked_iff
    refine ⟨?_, ?_, ?_⟩
    · intro hmark
      rw [readNumber_of_longest h, number?, if_neg (hmarked.mp hmark)]
    · intro hmark hrange
      obtain ⟨i, hi⟩ := exists_toInt_eq_iff.mpr hrange
      have hwhole := not_not.mp (mt hmarked.mpr hmark)
      refine ⟨i, hi, ?_⟩
      rw [readNumber_of_longest h, number?, if_pos hwhole, int64?_eq_some_iff.mpr hi]
      rfl
    · intro hmark hrange
      have hwhole := not_not.mp (mt hmarked.mpr hmark)
      have hnone : int64? n.wholeValue = none := by
        rw [Option.eq_none_iff_forall_ne_some]
        intro i hi
        exact hrange (exists_toInt_eq_iff.mp ⟨i, int64?_eq_some_iff.mp hi⟩)
      rw [readNumber_of_longest h, number?, if_pos hwhole, hnone]
      rfl

/-- What no digit follows is left: an exponent mark with its sign, a point behind the least integer.
The integer after the greatest one is refused. -/
theorem readNumber_maximal_tails :
    readNumber "1.5e-x".toList = .ok (.float (.ofDecimal ⟨false, 15, -1⟩), "e-x".toList) ∧
    (∃ i : Int64, i.toInt = -2 ^ 63 ∧
      readNumber "-9223372036854775808.".toList = .ok (.int i, ['.'])) ∧
    readNumber "9223372036854775808)".toList = .error (.stuck [')'] .digit) := by
  have hfraction : Longest ⟨false, ['1'], some ['5'], none⟩ "1.5e-x".toList "e-x".toList :=
    read?_eq_some_iff.mp (by decide)
  have hleast : Longest ⟨true, "9223372036854775808".toList, none, none⟩
      "-9223372036854775808.".toList ['.'] := read?_eq_some_iff.mp (by decide)
  have hbeyond : Longest ⟨false, "9223372036854775808".toList, none, none⟩
      "9223372036854775808)".toList [')'] := read?_eq_some_iff.mp (by decide)
  exact ⟨((readNumber_maximal _).2.2 _ _ hfraction).1 (by decide),
    ((readNumber_maximal _).2.2 _ _ hleast).2.1 (by decide) (by decide),
    ((readNumber_maximal _).2.2 _ _ hbeyond).2.2 (by decide) (by decide)⟩

end Axis

end CoverageQuery
