import CoverageQuery.Proofs.ExceptionReport.Extraction

/-!
# Self-closed elements

A self-closed tag stands for a start tag and the end tag that matches it. An exception text that is
self-closed begins a text and does not end it, so the two spellings of a report do not always say
the same: they differ exactly if the last of its exception texts is self-closed and another text is
found instead of the empty one.
-/

namespace CoverageQuery

namespace Xml.Event

/-- A self-closed tag is spelled out as a start tag and an end tag. -/
def spelledOut : Event → List Event
  | empty tag => [opening tag, closing tag.name]
  | e => [e]

/-- A self-closed tag with this local name. -/
def IsSelfClosed (name : String) : Event → Prop
  | empty tag => ExceptionReport.isNamed name tag.name
  | opening _ | closing _ | text _ | data _ | other => False

/-- A start tag with this local name. -/
def IsStart (name : String) : Event → Prop
  | opening tag => ExceptionReport.isNamed name tag.name
  | empty _ | closing _ | text _ | data _ | other => False

variable {e : Event} {name : String}

theorem isTag_iff : e.IsTag name ↔ e.IsStart name ∨ e.IsSelfClosed name := by
  cases e <;> simp [IsTag, IsStart, IsSelfClosed]

theorem IsSelfClosed.isTag (h : e.IsSelfClosed name) : e.IsTag name := isTag_iff.mpr (.inr h)

theorem IsStart.isTag (h : e.IsStart name) : e.IsTag name := isTag_iff.mpr (.inl h)

theorem IsStart.not_isSelfClosed (h : e.IsStart name) : ¬e.IsSelfClosed name := by
  cases e with
  | empty tag => exact h.elim
  | _ => exact id

end Xml.Event

namespace ExceptionReport

open Xml

variable {events before after body : List Event} {e x : Event} {p q : Progress}

/-- The last tag of an exception text is a start tag, and no text has ended after it. -/
def Begun (events : List Event) : Prop :=
  ∃ body, OpenedBy (Event.IsStart "ExceptionText") events body

/-- An exception text is self-closed, and none after it is self-closed or both begun and ended. -/
def EndsSelfClosed (events : List Event) : Prop :=
  ∃ before e after, events = before ++ e :: after ∧ e.IsSelfClosed "ExceptionText" ∧
    (∀ x ∈ after, ¬x.IsSelfClosed "ExceptionText") ∧
    ∀ before' body, ¬ClosedText after before' body

theorem begun_concat_iff :
    Begun (events ++ [e]) ↔
      e.IsStart "ExceptionText" ∨
        ¬e.IsTag "ExceptionText" ∧ ¬e.IsEnd "ExceptionText" ∧ Begun events := by
  simp only [Begun, openedBy_concat_iff]
  constructor
  · rintro ⟨body, ⟨ho, -⟩ | ⟨ht, hc, rest, hr, -⟩⟩
    · exact .inl ho
    · exact .inr ⟨ht, hc, rest, hr⟩
  · rintro (ho | ⟨ht, hc, rest, hr⟩)
    · exact ⟨[], .inl ⟨ho, rfl⟩⟩
    · exact ⟨_, .inr ⟨ht, hc, rest, hr, rfl⟩⟩

/-- What is begun after a self-closed text is begun by an event that comes after it. -/
theorem begun_append_cons_iff (hx : x.IsSelfClosed "ExceptionText")
    (hafter : ∀ y ∈ after, ¬y.IsSelfClosed "ExceptionText") :
    Begun (before ++ x :: after) ↔ ∃ body, OpenText after body := by
  constructor
  · rintro ⟨body, front, opening, heq, ho, hb⟩
    rcases List.append_eq_append_iff.mp heq with ⟨rest, rfl, hrest⟩ | ⟨rest, rfl, hrest⟩
    · cases rest with
      | nil =>
        cases hrest
        exact absurd hx ho.not_isSelfClosed
      | cons y rest =>
        cases hrest
        exact ⟨body, rest, opening, rfl, ho.isTag, hb⟩
    · cases rest with
      | nil =>
        cases hrest
        exact absurd hx ho.not_isSelfClosed
      | cons y rest =>
        cases hrest
        exact absurd hx.isTag (hb x (List.mem_append_right _ (List.mem_cons_self ..))).1
  · rintro ⟨body, front, opening, rfl, ho, hb⟩
    have hstart := (Event.isTag_iff.mp ho).resolve_right (hafter opening (by simp))
    exact ⟨body, before ++ x :: front, opening, by simp, hstart, hb⟩

/-- The last text stays self-closed until one is self-closed again or one that is begun ends. -/
theorem endsSelfClosed_concat_iff :
    EndsSelfClosed (events ++ [e]) ↔
      e.IsSelfClosed "ExceptionText" ∨
        EndsSelfClosed events ∧ ¬(e.IsEnd "ExceptionText" ∧ Begun events) := by
  constructor
  · rintro ⟨before, x, after, he, hx, hself, hclosed⟩
    rcases concat_eq_append_cons_iff.mp he with ⟨rfl, rfl, rfl⟩ | ⟨rest, rfl, rfl⟩
    · exact .inl hx
    · have hrest := (List.forall_mem_append.mp hself).1
      refine .inr ⟨⟨before, x, rest, rfl, hx, hrest, ?_⟩, ?_⟩
      · intro before' body h
        exact hclosed before' body (closedText_concat_iff.mpr (.inr h))
      · rintro ⟨hc, hbegun⟩
        obtain ⟨body, ho⟩ := (begun_append_cons_iff hx hrest).mp hbegun
        exact hclosed rest body (closedText_concat_iff.mpr (.inl ⟨rfl, hc, ho⟩))
  · by_cases he : e.IsSelfClosed "ExceptionText"
    · refine fun _ => ⟨events, e, [], rfl, he, nofun, ?_⟩
      intro before' body h
      exact absurd h.length_lt (Nat.not_lt_zero _)
    · rintro (h | ⟨⟨before, x, after, rfl, hx, hself, hclosed⟩, hopen⟩)
      · exact absurd h he
      · refine ⟨before, x, after ++ [e], by simp, hx, ?_, ?_⟩
        · exact List.forall_mem_append.mpr ⟨hself, List.forall_mem_singleton.mpr he⟩
        · intro before' body h
          rcases closedText_concat_iff.mp h with ⟨rfl, hc, ho⟩ | earlier
          · exact hopen ⟨hc, (begun_append_cons_iff hx hself).mpr ⟨body, ho⟩⟩
          · exact hclosed before' body earlier

/-! ### One event in both spellings -/

theorem foldl_spelledOut (h : ¬e.IsSelfClosed "ExceptionText") (p : Progress) :
    e.spelledOut.foldl step p = step p e := by
  cases e with
  | empty tag =>
    have hname : ¬isNamed "ExceptionText" tag.name := h
    change step (onTag p tag) (.closing tag.name) = onTag p tag
    rw [step_closing, if_neg hname]
  | _ => rfl

/-- Spelled out, an exception text that is self-closed ends at once and is empty. -/
theorem foldl_spelledOut_of_isSelfClosed (h : e.IsSelfClosed "ExceptionText") (p : Progress) :
    e.spelledOut.foldl step p =
      { step p e with detail := { (step p e).detail with text := some "" }, opened := none } := by
  cases e with
  | empty tag =>
    have hname : isNamed "ExceptionText" tag.name := h
    have hopened : (onTag p tag).opened = some [] := by
      have := opened_step (p := p) (e := .empty tag)
      rw [if_pos h.isTag] at this
      exact this
    change step (onTag p tag) (.closing tag.name) = _
    rw [step_closing, if_pos hname, hopened]
    rfl
  | _ => exact h.elim

/-- What is known of a report and of the same report spelled out. -/
structure Parallel (events : List Event) (p q : Progress) : Prop where
  found : q.found = p.found
  code : q.detail.code = p.detail.code
  text : ¬EndsSelfClosed events → q.detail.text = p.detail.text
  empty : EndsSelfClosed events → q.detail.text = some ""
  begun : Begun events → q.opened = p.opened ∧ q.opened ≠ none
  unbegun : ¬Begun events → q.opened = none ∧ (p.opened ≠ none → EndsSelfClosed events)

theorem parallel_start : Parallel [] start start where
  found := rfl
  code := rfl
  text _ := rfl
  empty := by
    rintro ⟨before, e, after, h, -⟩
    exact absurd h (by simp)
  begun := by
    rintro ⟨body, before, opening, h, -⟩
    exact absurd h (by simp)
  unbegun _ := ⟨rfl, fun h => absurd rfl h⟩

namespace Parallel

theorem found_step (h : Parallel events p q) : (step q e).found = (step p e).found := by
  rw [Bool.eq_iff_iff, ExceptionReport.found_step, ExceptionReport.found_step, h.found]

theorem code_step (h : Parallel events p q) :
    (step q e).detail.code = (step p e).detail.code := by
  rw [ExceptionReport.code_step, ExceptionReport.code_step, h.code]

theorem step_of_isSelfClosed (h : Parallel events p q) (he : e.IsSelfClosed "ExceptionText") :
    Parallel (events ++ [e]) (step p e) (e.spelledOut.foldl step q) := by
  have hends : EndsSelfClosed (events ++ [e]) := endsSelfClosed_concat_iff.mpr (.inl he)
  have hbegun : ¬Begun (events ++ [e]) := by
    rw [begun_concat_iff]
    rintro (hstart | ⟨htag, -⟩)
    · exact hstart.not_isSelfClosed he
    · exact htag he.isTag
  rw [foldl_spelledOut_of_isSelfClosed he]
  exact {
    found := h.found_step
    code := h.code_step
    text := fun hne => absurd hends hne
    empty := fun _ => rfl
    begun := fun hb => absurd hb hbegun
    unbegun := fun _ => ⟨rfl, fun _ => hends⟩ }

/-- The end of a text that is open in the second spelling is the end of the same text in the
first. -/
theorem step_of_not_isSelfClosed (h : Parallel events p q)
    (he : ¬e.IsSelfClosed "ExceptionText") :
    Parallel (events ++ [e]) (step p e) (step q e) where
  found := h.found_step
  code := h.code_step
  text := by
    rw [endsSelfClosed_concat_iff, text_step, text_step]
    intro hne
    by_cases hb : e.IsEnd "ExceptionText" ∧ Begun events
    · obtain ⟨hopened, hopen⟩ := h.begun hb.2
      obtain ⟨read, hread⟩ := Option.ne_none_iff_exists'.mp hopen
      rw [if_pos hb.1, if_pos hb.1, ← hopened, hread]
      rfl
    · have hends : ¬EndsSelfClosed events := fun hends => hne (.inr ⟨hends, hb⟩)
      by_cases hc : e.IsEnd "ExceptionText"
      · obtain ⟨hq, hp⟩ := h.unbegun fun hbegun => hb ⟨hc, hbegun⟩
        have hp' : p.opened = none := not_not.mp fun hopen => hends (hp hopen)
        rw [if_pos hc, if_pos hc, hq, hp', h.text hends]
      · rw [if_neg hc, if_neg hc, h.text hends]
  empty := by
    rw [endsSelfClosed_concat_iff, text_step, or_iff_right he]
    rintro ⟨hends, hb⟩
    by_cases hc : e.IsEnd "ExceptionText"
    · obtain ⟨hq, -⟩ := h.unbegun fun hbegun => hb ⟨hc, hbegun⟩
      rw [if_pos hc, hq, h.empty hends]
      rfl
    · rw [if_neg hc, h.empty hends]
  begun := by
    rw [begun_concat_iff, opened_step, opened_step]
    rintro (hstart | ⟨ht, hc, hb⟩)
    · rw [if_pos hstart.isTag, if_pos hstart.isTag]
      exact ⟨rfl, nofun⟩
    · obtain ⟨hopened, hopen⟩ := h.begun hb
      rw [if_neg ht, if_neg hc, if_neg ht, if_neg hc, hopened]
      exact ⟨rfl, by simpa [← hopened] using hopen⟩
  unbegun := by
    rw [begun_concat_iff, opened_step, opened_step, endsSelfClosed_concat_iff]
    intro hb
    have ht : ¬e.IsTag "ExceptionText" := by
      rw [Event.isTag_iff]
      rintro (hstart | hself)
      · exact hb (.inl hstart)
      · exact he hself
    by_cases hc : e.IsEnd "ExceptionText"
    · rw [if_neg ht, if_pos hc, if_neg ht, if_pos hc]
      exact ⟨rfl, fun hne => absurd rfl hne⟩
    · obtain ⟨hq, hp⟩ := h.unbegun fun hbegun => hb (.inr ⟨ht, hc, hbegun⟩)
      rw [if_neg ht, if_neg hc, if_neg ht, if_neg hc, hq]
      refine ⟨rfl, fun hopen => .inr ⟨hp ?_, fun hend => hc hend.1⟩⟩
      simpa using hopen

theorem step (h : Parallel events p q) :
    Parallel (events ++ [e]) (ExceptionReport.step p e)
      (e.spelledOut.foldl ExceptionReport.step q) := by
  by_cases he : e.IsSelfClosed "ExceptionText"
  · exact h.step_of_isSelfClosed he
  · rw [foldl_spelledOut he]
    exact h.step_of_not_isSelfClosed he

end Parallel

theorem parallel_foldl (events : List Event) :
    Parallel events (events.foldl step start)
      ((events.flatMap Event.spelledOut).foldl step start) := by
  induction events using List.reverseRecOn with
  | nil => exact parallel_start
  | append_singleton events e ih =>
    rw [List.flatMap_append, List.flatMap_singleton, List.foldl_concat, List.foldl_append]
    exact ih.step

namespace Parallel

theorem detail_eq_iff (h : Parallel events p q) :
    q.detail = p.detail ↔ ¬EndsSelfClosed events ∨ p.detail.text = some "" := by
  have same : q.detail = p.detail ↔ q.detail.text = p.detail.text := by
    constructor
    · intro hd
      rw [hd]
    · intro ht
      calc q.detail = ⟨q.detail.text, q.detail.code⟩ := rfl
        _ = ⟨p.detail.text, p.detail.code⟩ := by rw [ht, h.code]
  rw [same]
  by_cases hends : EndsSelfClosed events
  · rw [h.empty hends, eq_comm, or_iff_right (not_not.mpr hends)]
  · exact iff_of_true (h.text hends) (.inl hends)

theorem detail_of_endsSelfClosed (h : Parallel events p q) (hends : EndsSelfClosed events) :
    q.detail = { p.detail with text := some "" } :=
  calc q.detail = ⟨q.detail.text, q.detail.code⟩ := rfl
    _ = ⟨some "", p.detail.code⟩ := by rw [h.empty hends, h.code]

end Parallel

/-- An empty text is the one found if the exception text that ends last holds no character. -/
theorem Tracks.text_eq_empty_iff (h : Tracks events p) :
    p.detail.text = some "" ↔ ∃ body, LastText events body ∧ body.flatMap Event.content = [] := by
  rw [h.text]
  constructor
  · rintro ⟨body, last, hb⟩
    exact ⟨body, last, (String.ofList_injective hb).symm⟩
  · rintro ⟨body, last, hb⟩
    exact ⟨body, last, by rw [hb]⟩

/-- A report that is spelled out says the same, but for an empty text where its last exception text
is self-closed. So the two spellings of a report with an exception agree unless another text is
found for that one. -/
theorem ofEvents?_spelledOut_eq_iff (events : List Event) :
    (ofEvents? (events.flatMap Event.spelledOut) = ofEvents? events ↔
      (∀ e ∈ events, ¬e.IsTag "Exception") ∨ ¬EndsSelfClosed events ∨
        ∃ body, LastText events body ∧ body.flatMap Event.content = []) ∧
    (EndsSelfClosed events → ∀ detail, ofEvents? events = some detail →
      ofEvents? (events.flatMap Event.spelledOut) = some { detail with text := some "" }) := by
  have tracks := tracks_foldl events
  have parallel := parallel_foldl events
  simp only [ofEvents?, parallel.found]
  constructor
  · by_cases hfound : (events.foldl step start).found
    · obtain ⟨x, hx, ht⟩ := tracks.found.mp hfound
      have hsome : ¬∀ e ∈ events, ¬e.IsTag "Exception" := fun none => none x hx ht
      rw [if_pos hfound, if_pos hfound, Option.some.injEq, parallel.detail_eq_iff,
        tracks.text_eq_empty_iff, or_iff_right hsome]
    · have hnone : ∀ e ∈ events, ¬e.IsTag "Exception" :=
        fun e he ht => hfound (tracks.found.mpr ⟨e, he, ht⟩)
      rw [if_neg hfound, if_neg hfound]
      exact iff_of_true rfl (.inl hnone)
  · rintro hends detail hdetail
    obtain ⟨hfound, ⟨⟩⟩ := Option.ite_none_right_eq_some.mp hdetail
    rw [if_pos hfound, parallel.detail_of_endsSelfClosed hends]

/-- A last text that is self-closed loses to the text before it, but wins spelled out. -/
theorem selfClosed_text_lost :
    let first := "<Exception exceptionCode=\"E\"><ExceptionText>first</ExceptionText>"
    let report := Xml.events (first.toList ++ "<ExceptionText/></Exception>".toList)
    ofEvents? report = some ⟨some "first", some "E"⟩ ∧
      ofEvents? (report.flatMap Event.spelledOut) = some ⟨some "", some "E"⟩ ∧
      ofEvents? (report.flatMap Event.spelledOut) ≠ ofEvents? report := by
  intro first report
  have said : ofEvents? report = some ⟨some "first", some "E"⟩ := by decide +kernel
  have spelled : ofEvents? (report.flatMap Event.spelledOut) = some ⟨some "", some "E"⟩ := by
    decide +kernel
  refine ⟨said, spelled, ?_⟩
  rw [said, spelled]
  decide

end ExceptionReport

end CoverageQuery
