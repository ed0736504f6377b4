import CoverageQuery.ExceptionReport
import Mathlib.Data.List.Basic
import Mathlib.Data.List.Induction

/-!
# What is extracted from an exception report

The detail of a report, said of its events as a whole: which attribute gives the code, and between
which two events the text stands. Reading the events one by one keeps in step with this description,
whether elements are repeated, nested, left open or misplaced.
-/

namespace CoverageQuery

namespace Xml.Event

/-- An opening or a self-closed tag with this local name. -/
def IsTag (name : String) : Event → Prop
  | opening tag | empty tag => ExceptionReport.isNamed name tag.name
  | closing _ | text _ | data _ | other => False

/-- An end tag with this local name. -/
def IsEnd (name : String) : Event → Prop
  | closing qualified => ExceptionReport.isNamed name qualified
  | opening _ | empty _ | text _ | data _ | other => False

instance (name : String) : DecidablePred (IsTag name)
  | opening tag | empty tag => inferInstanceAs (Decidable (ExceptionReport.isNamed name tag.name))
  | closing _ | text _ | data _ | other => isFalse id

instance (name : String) : DecidablePred (IsEnd name)
  | closing qualified => inferInstanceAs (Decidable (ExceptionReport.isNamed name qualified))
  | opening _ | empty _ | text _ | data _ | other => isFalse id

/-- What the event adds to a text that it stands in. Text with an unreadable reference adds
nothing. -/
def content : Event → List Char
  | text raw => (unescape? raw).getD []
  | data content => content
  | opening _ | empty _ | closing _ | other => []

/-- The attributes with local name `key` of a tag with local name `name`. -/
def attributesOf (name key : String) : Event → List Attribute
  | opening tag | empty tag =>
    if ExceptionReport.isNamed name tag.name then
      tag.attributes.filter fun a => ExceptionReport.isNamed key a.name
    else []
  | closing _ | text _ | data _ | other => []

end Xml.Event

namespace ExceptionReport

open Xml

variable {events before after body body' : List Event} {e x : Event} {p : Progress}

/-- `body` is all that follows the last tag that opened an exception text, and does not end it. -/
def OpenText (events body : List Event) : Prop :=
  ∃ before opening, events = before ++ opening :: body ∧ opening.IsTag "ExceptionText" ∧
    ∀ e ∈ body, ¬e.IsTag "ExceptionText" ∧ ¬e.IsEnd "ExceptionText"

/-- After `before` an exception text ends that was open with this `body`. -/
def ClosedText (events before body : List Event) : Prop :=
  ∃ closing after, events = before ++ closing :: after ∧ closing.IsEnd "ExceptionText" ∧
    OpenText before body

/-- `body` is that of the exception text that ends last. -/
def LastText (events body : List Event) : Prop :=
  ∃ before, ClosedText events before body ∧
    ∀ other body', ClosedText events other body' → other.length ≤ before.length

/-- The last code of an exception, none if there is none or if the last one is unreadable. -/
def lastCode? (events : List Event) : Option String :=
  (events.flatMap (Event.attributesOf "Exception" "exceptionCode")).getLast?.bind
    fun a => readable? a.raw

/-- The last event of a sequence either is the one that it is split at or comes after it. -/
theorem concat_eq_append_cons_iff :
    events ++ [e] = before ++ x :: after ↔
      (before = events ∧ x = e ∧ after = []) ∨
        ∃ rest, after = rest ++ [e] ∧ events = before ++ x :: rest := by
  constructor
  · intro h
    rcases List.eq_nil_or_concat after with rfl | ⟨rest, last, rfl⟩
    · obtain ⟨rfl, hx⟩ := List.append_inj' h rfl
      cases hx
      exact .inl ⟨rfl, rfl, rfl⟩
    · rw [List.concat_eq_append] at h ⊢
      rw [← List.cons_append, ← List.append_assoc] at h
      obtain ⟨rfl, hl⟩ := List.append_inj' h rfl
      cases hl
      exact .inr ⟨rest, rfl, rfl⟩
  · rintro (⟨rfl, rfl, rfl⟩ | ⟨rest, rfl, rfl⟩)
    · rfl
    · rw [List.append_assoc, List.cons_append]

/-- `body` is all that follows an event with this property, and no exception text begins or ends
in it. -/
def OpenedBy (P : Event → Prop) (events body : List Event) : Prop :=
  ∃ before opening, events = before ++ opening :: body ∧ P opening ∧
    ∀ e ∈ body, ¬e.IsTag "ExceptionText" ∧ ¬e.IsEnd "ExceptionText"

theorem openedBy_concat_iff {P : Event → Prop} :
    OpenedBy P (events ++ [e]) body ↔
      (P e ∧ body = []) ∨
        (¬e.IsTag "ExceptionText" ∧ ¬e.IsEnd "ExceptionText" ∧
          ∃ rest, OpenedBy P events rest ∧ body = rest ++ [e]) := by
  constructor
  · rintro ⟨before, opening, he, ho, hb⟩
    rcases concat_eq_append_cons_iff.mp he with ⟨rfl, rfl, rfl⟩ | ⟨rest, rfl, rfl⟩
    · exact .inl ⟨ho, rfl⟩
    · obtain ⟨hr, hl⟩ := List.forall_mem_append.mp hb
      obtain ⟨ht, hc⟩ := hl e (List.mem_singleton_self e)
      exact .inr ⟨ht, hc, rest, ⟨before, opening, rfl, ho, hr⟩, rfl⟩
  · rintro (⟨ho, rfl⟩ | ⟨ht, hc, rest, ⟨before, opening, rfl, ho, hr⟩, rfl⟩)
    · exact ⟨events, e, rfl, ho, fun _ h => absurd h List.not_mem_nil⟩
    · refine ⟨before, opening, by rw [List.append_assoc, List.cons_append], ho, ?_⟩
      exact List.forall_mem_append.mpr ⟨hr, List.forall_mem_singleton.mpr ⟨ht, hc⟩⟩

theorem openText_concat_iff :
    OpenText (events ++ [e]) body ↔
      (e.IsTag "ExceptionText" ∧ body = []) ∨
        (¬e.IsTag "ExceptionText" ∧ ¬e.IsEnd "ExceptionText" ∧
          ∃ rest, OpenText events rest ∧ body = rest ++ [e]) :=
  openedBy_concat_iff

theorem closedText_concat_iff :
    ClosedText (events ++ [e]) before body ↔
      (before = events ∧ e.IsEnd "ExceptionText" ∧ OpenText events body) ∨
        ClosedText events before body := by
  constructor
  · rintro ⟨closing, after, he, hc, ho⟩
    rcases concat_eq_append_cons_iff.mp he with ⟨rfl, rfl, -⟩ | ⟨rest, -, rfl⟩
    · exact .inl ⟨rfl, hc, ho⟩
    · exact .inr ⟨closing, rest, rfl, hc, ho⟩
  · rintro (⟨rfl, hc, ho⟩ | ⟨closing, rest, rfl, hc, ho⟩)
    · exact ⟨e, [], rfl, hc, ho⟩
    · exact ⟨closing, rest ++ [e], by rw [List.append_assoc, List.cons_append], hc, ho⟩

theorem ClosedText.length_lt (h : ClosedText events before body) :
    before.length < events.length := by
  obtain ⟨closing, after, rfl, -⟩ := h
  simp

theorem lastText_concat_of_closes (hc : e.IsEnd "ExceptionText") (ho : OpenText events body') :
    LastText (events ++ [e]) body ↔ OpenText events body := by
  have closed : ClosedText (events ++ [e]) events body' :=
    closedText_concat_iff.mpr (.inl ⟨rfl, hc, ho⟩)
  constructor
  · rintro ⟨before, h, last⟩
    rcases closedText_concat_iff.mp h with ⟨rfl, -, hb⟩ | earlier
    · exact hb
    · exact absurd (last _ _ closed) (Nat.not_le_of_lt earlier.length_lt)
  · intro hb
    refine ⟨events, closedText_concat_iff.mpr (.inl ⟨rfl, hc, hb⟩), ?_⟩
    rintro other other' h
    rcases closedText_concat_iff.mp h with ⟨rfl, -⟩ | earlier
    · exact Nat.le_refl _
    · exact Nat.le_of_lt earlier.length_lt

theorem lastText_concat_of_not_closes
    (h : e.IsEnd "ExceptionText" → ∀ body, ¬OpenText events body) :
    LastText (events ++ [e]) body ↔ LastText events body := by
  have same : ∀ before body,
      ClosedText (events ++ [e]) before body ↔ ClosedText events before body := by
    intro before body
    rw [closedText_concat_iff, or_iff_right]
    rintro ⟨-, hc, ho⟩
    exact h hc body ho
  simp only [LastText, same]

/-- Among the exception texts that end there is one that ends last. -/
theorem exists_lastText (h : ClosedText events before body) : ∃ body, LastText events body := by
  induction events using List.reverseRecOn generalizing before body with
  | nil => exact absurd h.length_lt (Nat.not_lt_zero _)
  | append_singleton events e ih =>
    by_cases closes : e.IsEnd "ExceptionText" ∧ ∃ body, OpenText events body
    · obtain ⟨hc, body', ho⟩ := closes
      exact ⟨body', (lastText_concat_of_closes hc ho).mpr ho⟩
    · have open' : e.IsEnd "ExceptionText" → ∀ body, ¬OpenText events body :=
        fun hc body ho => closes ⟨hc, body, ho⟩
      rcases closedText_concat_iff.mp h with ⟨-, hc, ho⟩ | earlier
      · exact absurd ho (open' hc _)
      · obtain ⟨body, hb⟩ := ih earlier
        exact ⟨body, (lastText_concat_of_not_closes open').mpr hb⟩

/-! ### What one event does -/

theorem isNamed_unique {name name' : String} {qualified : List Char}
    (h : isNamed name qualified) (h' : isNamed name' qualified) : name = name' := by
  rw [isNamed, beq_iff_eq] at h h'
  exact String.toList_inj.mp (h.symm.trans h')

theorem codeAfter_eq (code : Option String) (attributes : List Attribute) :
    codeAfter code attributes =
      match (attributes.filter fun a => isNamed "exceptionCode" a.name).getLast? with
      | some a => readable? a.raw
      | none => code := by
  induction attributes using List.reverseRecOn with
  | nil => rfl
  | append_singleton attributes a ih =>
    rw [codeAfter, List.foldl_concat, List.filter_append]
    cases ha : isNamed "exceptionCode" a.name with
    | true => simp [ha]
    | false => simpa [ha, codeAfter] using ih

/-- The end of an exception text is without effect where none is open. -/
theorem step_closing (qualified : List Char) :
    step p (.closing qualified) =
      if isNamed "ExceptionText" qualified then
        { p with
          detail := { p.detail with text := (p.opened.map String.ofList).or p.detail.text }
          opened := none }
      else p := by
  obtain ⟨found, detail, opened⟩ := p
  cases opened with
  | none => split <;> rfl
  | some text => rfl

theorem found_step : (step p e).found ↔ p.found ∨ e.IsTag "Exception" := by
  cases e with
  | opening tag | empty tag =>
    simp only [step, onTag, Event.IsTag]
    split
    · next h => exact iff_of_true rfl (.inr h)
    · next h => split <;> exact (or_iff_left h).symm
  | closing qualified =>
    rw [step_closing]
    split <;> exact (or_iff_left id).symm
  | text raw | data content | other => exact (or_iff_left id).symm

theorem code_step :
    (step p e).detail.code =
      match (e.attributesOf "Exception" "exceptionCode").getLast? with
      | some a => readable? a.raw
      | none => p.detail.code := by
  cases e with
  | opening tag | empty tag =>
    simp only [step, onTag, Event.attributesOf]
    split
    · exact codeAfter_eq _ _
    · split <;> rfl
  | closing qualified =>
    rw [step_closing]
    split <;> rfl
  | text raw | data content | other => rfl

theorem opened_step :
    (step p e).opened =
      if e.IsTag "ExceptionText" then some []
      else if e.IsEnd "ExceptionText" then none
      else p.opened.map (· ++ e.content) := by
  cases e with
  | opening tag | empty tag =>
    simp only [step, onTag, Event.IsTag, Event.IsEnd, Event.content, List.append_nil, if_false,
      Option.map_id']
    split
    · next h =>
      rw [if_neg]
      intro h'
      exact absurd (isNamed_unique h h') (by decide)
    · split <;> rfl
  | closing qualified =>
    simp only [step_closing, Event.IsTag, Event.IsEnd, Event.content, List.append_nil, if_false,
      Option.map_id']
    split <;> rfl
  | text raw | data content => rfl
  | other => simp [step, Event.IsTag, Event.IsEnd, Event.content]

theorem text_step :
    (step p e).detail.text =
      if e.IsEnd "ExceptionText" then (p.opened.map String.ofList).or p.detail.text
      else p.detail.text := by
  cases e with
  | opening tag | empty tag =>
    simp only [step, onTag, Event.IsEnd]
    split
    · rfl
    · split <;> rfl
  | closing qualified =>
    rw [step_closing]
    split
    · next h => exact (if_pos h).symm
    · next h => exact (if_neg h).symm
  | text raw | data content | other => rfl

/-! ### What all of them do -/

/-- What is known after these events, as their whole sequence has it. -/
structure Tracks (events : List Event) (p : Progress) : Prop where
  found : p.found ↔ ∃ e ∈ events, e.IsTag "Exception"
  code : p.detail.code = lastCode? events
  opened : ∀ text, p.opened = some text ↔
    ∃ body, OpenText events body ∧ text = body.flatMap Event.content
  text : ∀ text, p.detail.text = some text ↔
    ∃ body, LastText events body ∧ text = String.ofList (body.flatMap Event.content)

theorem tracks_start : Tracks [] start where
  found := by simp [start]
  code := rfl
  opened := by
    intro text
    refine iff_of_false nofun ?_
    rintro ⟨body, ⟨before, opening, h, -⟩, -⟩
    exact absurd h (by simp)
  text := by
    intro text
    refine iff_of_false nofun ?_
    rintro ⟨body, ⟨before, h, -⟩, -⟩
    exact absurd h.length_lt (Nat.not_lt_zero _)

theorem lastCode?_concat :
    lastCode? (events ++ [e]) =
      match (e.attributesOf "Exception" "exceptionCode").getLast? with
      | some a => readable? a.raw
      | none => lastCode? events := by
  rw [lastCode?, List.flatMap_append, List.flatMap_singleton, List.getLast?_append]
  cases (e.attributesOf "Exception" "exceptionCode").getLast? with
  | none => rfl
  | some a => rfl

theorem Tracks.step_opened (h : Tracks events p) (text : List Char) :
    (step p e).opened = some text ↔
      ∃ body, OpenText (events ++ [e]) body ∧ text = body.flatMap Event.content := by
  simp only [opened_step, openText_concat_iff]
  by_cases ht : e.IsTag "ExceptionText"
  · simp [ht, eq_comm]
  by_cases hc : e.IsEnd "ExceptionText"
  · simp [ht, hc]
  constructor
  · rw [if_neg ht, if_neg hc, Option.map_eq_some_iff]
    rintro ⟨read, hp, rfl⟩
    obtain ⟨body, ho, rfl⟩ := (h.opened read).mp hp
    exact ⟨body ++ [e], .inr ⟨ht, hc, body, ho, rfl⟩, by simp⟩
  · rw [if_neg ht, if_neg hc, Option.map_eq_some_iff]
    rintro ⟨body', ⟨ht', -⟩ | ⟨-, -, body, ho, rfl⟩, rfl⟩
    · exact absurd ht' ht
    · exact ⟨_, (h.opened _).mpr ⟨body, ho, rfl⟩, by simp⟩

theorem Tracks.step_text (h : Tracks events p) (text : String) :
    (step p e).detail.text = some text ↔
      ∃ body, LastText (events ++ [e]) body ∧
        text = String.ofList (body.flatMap Event.content) := by
  rw [text_step]
  cases hp : p.opened with
  | none =>
    have closed : ∀ body, ¬OpenText events body := by
      intro body ho
      have := (h.opened _).mpr ⟨body, ho, rfl⟩
      rw [hp] at this
      cases this
    simp only [lastText_concat_of_not_closes fun _ => closed, ← h.text, Option.map_none,
      Option.none_or, ite_self]
  | some read =>
    obtain ⟨body, ho, rfl⟩ := (h.opened read).mp hp
    by_cases hc : e.IsEnd "ExceptionText"
    · simp only [if_pos hc, lastText_concat_of_closes hc ho, Option.map_some, Option.some_or,
        Option.some.injEq]
      constructor
      · rintro rfl
        exact ⟨body, ho, rfl⟩
      · rintro ⟨body', ho', rfl⟩
        have same := (h.opened _).mpr ⟨body', ho', rfl⟩
        rw [hp, Option.some.injEq] at same
        rw [same]
    · simp only [if_neg hc, lastText_concat_of_not_closes fun h => absurd h hc, h.text]

theorem Tracks.step (h : Tracks events p) : Tracks (events ++ [e]) (step p e) where
  found := by rw [found_step, h.found]; simp [or_and_right, exists_or]
  code := by rw [code_step, h.code, lastCode?_concat]
  opened := h.step_opened
  text := h.step_text

theorem tracks_foldl (events : List Event) : Tracks events (events.foldl step start) := by
  induction events using List.reverseRecOn with
  | nil => exact tracks_start
  | append_singleton events e ih =>
    rw [List.foldl_concat]
    exact ih.step

/-- A detail is found exactly where there is an exception, whatever texts there are. Its code is the
last one, and its text is what the last exception text says that is ended. -/
theorem ofEvents?_extracts (events : List Event) :
    (ofEvents? events = none ↔ ∀ e ∈ events, ¬e.IsTag "Exception") ∧
      ∀ detail, ofEvents? events = some detail →
        detail.code = lastCode? events ∧
        (∀ text, detail.text = some text ↔
          ∃ body, LastText events body ∧
            text = String.ofList (body.flatMap Event.content)) ∧
        (detail.text = none ↔ ∀ before body, ¬ClosedText events before body) := by
  have tracks := tracks_foldl events
  rw [ofEvents?]
  constructor
  · rw [ite_eq_right_iff, tracks.found]
    constructor
    · intro h e he ht
      cases h ⟨e, he, ht⟩
    · rintro h ⟨e, he, ht⟩
      exact absurd ht (h e he)
  · intro detail h
    obtain ⟨-, ⟨⟩⟩ := Option.ite_none_right_eq_some.mp h
    refine ⟨tracks.code, tracks.text, ?_⟩
    rw [Option.eq_none_iff_forall_ne_some]
    constructor
    · intro h before body closed
      obtain ⟨body, hb⟩ := exists_lastText closed
      exact h _ ((tracks.text _).mpr ⟨body, hb, rfl⟩)
    · intro h text ht
      obtain ⟨body, ⟨before, closed, -⟩, -⟩ := (tracks.text text).mp ht
      exact h before body closed

/-- A tag inside a text begins it anew. An end where no text is open is passed over, and so is a
text that is not ended. -/
example :
    let opening : Event := .opening ⟨"ows:ExceptionText".toList, []⟩
    let closing : Event := .closing "ows:ExceptionText".toList
    ofEvents? [opening, .data ['a'], opening, .data ['b'], closing, .data ['c'], closing,
      .empty ⟨"ows:Exception".toList, []⟩, opening, .data ['d']] = some ⟨some "b", none⟩ := by
  decide

end ExceptionReport

end CoverageQuery
