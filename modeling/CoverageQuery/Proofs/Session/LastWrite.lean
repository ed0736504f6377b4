import CoverageQuery.Proofs.Session.Build
import CoverageQuery.Proofs.Session.Step

/-!
# The last write wins

Every setter of a query replaces the payload and reads nothing but the coverages. So what a session
leaves of a query, and every text of it, is decided by the coverages and by the last write that was
carried out.
-/

namespace CoverageQuery

namespace Edit

variable {e : Edit .built} {q : Query} {o : Object}

/-- No edit reads the payload that is there. -/
theorem perform_withPayload (e : Edit .built) (q : Query) (p : Payload) :
    e.perform (.query (q.withPayload p)) = e.perform (.query q) := by
  cases e <;> rfl

/-- An edit of a query changes nothing but the payload. -/
theorem exists_payload_of_perform (h : e.perform (.query q) = .ok o) :
    ∃ p, o = .query (q.withPayload p) := by
  cases e with
  | returnValue v =>
    obtain ⟨r, hr, rfl⟩ := ofQuery_map_eq_ok_iff.mp h
    obtain ⟨e, -, ⟨⟩⟩ := bind_eq_ok_iff.mp hr
    exact ⟨.expr e, rfl⟩
  | returnSwitch s =>
    cases h
    exact ⟨.switch s, rfl⟩
  | switchOn cases otherwise =>
    obtain ⟨r, hr, rfl⟩ := ofQuery_map_eq_ok_iff.mp h
    obtain ⟨s, -, ⟨⟩⟩ := bind_eq_ok_iff.mp hr
    exact ⟨.switch s, rfl⟩
  | construct tuples op =>
    obtain ⟨r, hr, rfl⟩ := ofQuery_map_eq_ok_iff.mp h
    obtain ⟨g, -, ⟨⟩⟩ := bind_eq_ok_iff.mp hr
    exact ⟨.grid g, rfl⟩
  | clip tuples =>
    obtain ⟨r, hr, rfl⟩ := ofQuery_map_eq_ok_iff.mp h
    obtain ⟨c, -, ⟨⟩⟩ := bind_eq_ok_iff.mp hr
    exact ⟨.clip c, rfl⟩
  | unset =>
    cases h
    exact ⟨.unset, rfl⟩
  | _ => cases h

end Edit

namespace Session

/-- The edit of the named object that a step carries out, with its arguments built and with what
it makes of the object. -/
def rewrite? (s : Session) (name : String) : Step → Option (Edit .built × Object)
  | .edit target e =>
    if target = name then
      (s.built? e.resolve).bind fun (e, s) => (s.changed? target e).map fun o => (e, o)
    else none
  | .create _ _ | .nextVariable | .inquire _ => none

/-- The last edit of the named object that is carried out in some steps. -/
def lastWrite? (s : Session) (name : String) : List Step → Option (Edit .built)
  | [] => none
  | step :: steps =>
    ((s.step step).2.lastWrite? name steps).or ((s.rewrite? name step).map Prod.fst)

section Step

variable {s : Session} {name : String} {step : Step}

theorem rewrite?_eq_some_iff {e : Edit .built} {o : Object} :
    s.rewrite? name step = some (e, o) ↔ ∃ w s', step = .edit name w ∧
      s.built? w.resolve = some (e, s') ∧ s'.changed? name e = some o := by
  constructor
  · intro h
    cases step with
    | edit target w =>
      simp only [rewrite?] at h
      split at h
      · next htarget =>
        obtain ⟨⟨e', s'⟩, hbuilt, hchanged⟩ := Option.bind_eq_some_iff.mp h
        obtain ⟨o', ho', ⟨⟩⟩ := Option.map_eq_some_iff.mp hchanged
        exact ⟨w, s', by rw [htarget], hbuilt, htarget ▸ ho'⟩
      · cases h
    | _ => cases h
  · rintro ⟨w, s', rfl, hbuilt, hchanged⟩
    simp only [rewrite?, if_pos]
    rw [hbuilt, Option.bind_some, hchanged]
    rfl

theorem lookup_added (target : String) (added : Option Object) (objects : Objects) :
    ((added.map (target, ·)).toList ++ objects).lookup name =
      (if target = name then added else none).or (objects.lookup name) := by
  cases added with
  | none => split <;> rfl
  | some o =>
    rw [Option.map_some, Option.toList_some, List.singleton_append, List.lookup_cons]
    by_cases h : target = name
    · rw [if_pos h, h, beq_self_eq_true]
      rfl
    · rw [if_neg h, beq_false_of_ne (Ne.symm h)]
      rfl

/-- A step that makes no object of a name changes the object of this name exactly if it carries out
an edit of it. -/
theorem get?_step (hstep : ∀ c, step ≠ .create name c) :
    (s.step step).2.get? name = ((s.rewrite? name step).map Prod.snd).or (s.get? name) := by
  rw [get?, objects_step]
  cases step with
  | nextVariable | inquire i => rfl
  | create target c =>
    have hne : target ≠ name := by
      rintro rfl
      exact hstep c rfl
    rw [added?]
    cases s.built? c.resolve with
    | none => rfl
    | some built =>
      rw [Option.bind_some, lookup_added, if_neg hne]
      rfl
  | edit target w =>
    rw [added?, rewrite?]
    cases s.built? w.resolve with
    | none =>
      rw [Option.bind_none, Option.bind_none, ite_self]
      rfl
    | some built =>
      rw [Option.bind_some, Option.bind_some, lookup_added]
      congr 1
      split
      · rw [Option.map_map]
        exact Option.map_id'.symm
      · rfl

theorem perform_of_rewrite {e : Edit .built} {o o' : Object} (ho : s.get? name = some o)
    (h : s.rewrite? name step = some (e, o')) : e.perform o = .ok o' := by
  obtain ⟨w, s', -, hbuilt, hchanged⟩ := rewrite?_eq_some_iff.mp h
  obtain ⟨supply, -, rfl⟩ := built?_eq_some hbuilt
  have hget : get? { s with supply := supply } name = some o := ho
  rw [changed?, hget] at hchanged
  exact toOption_eq_some_iff.mp hchanged

end Step

section Query

variable {s : Session} {name : String} {q r : Query} {write : Option (Edit .built)}

/-- What a write, or none, leaves of a query that nothing was written to before. -/
def LeftOf (q : Query) : Option (Edit .built) → Query → Prop
  | none, r => r = q
  | some e, r => e.perform (.query q) = .ok (.query r)

theorem LeftOf.exists_payload (h : LeftOf q write r) : ∃ p, r = q.withPayload p := by
  cases write with
  | none => exact ⟨q.payload, h⟩
  | some e =>
    obtain ⟨p, hp⟩ := Edit.exists_payload_of_perform h
    exact ⟨p, Object.query.inj hp⟩

/-- A step leaves of a query what its write, or else an earlier one, leaves. -/
theorem step_leftOf {step : Step} (hget : s.get? name = some (.query r))
    (hleft : LeftOf q write r) (hstep : ∀ c, step ≠ .create name c) :
    ∃ r', (s.step step).2.get? name = some (.query r') ∧
      LeftOf q (((s.rewrite? name step).map Prod.fst).or write) r' := by
  rw [get?_step hstep]
  cases hrewrite : s.rewrite? name step with
  | none => exact ⟨r, hget, hleft⟩
  | some rewrite =>
    obtain ⟨e, o⟩ := rewrite
    obtain ⟨p, rfl⟩ := hleft.exists_payload
    have hperform := perform_of_rewrite hget hrewrite
    rw [Edit.perform_withPayload] at hperform
    obtain ⟨p', rfl⟩ := Edit.exists_payload_of_perform hperform
    exact ⟨q.withPayload p', rfl, hperform⟩

/-- The induction is on the steps; the write that the rest of them ends with counts, or else the
one before. -/
theorem run_leftOf {steps : List Step} (hget : s.get? name = some (.query r))
    (hleft : LeftOf q write r) (hsteps : ∀ c, .create name c ∉ steps) :
    ∃ r', (s.run steps).2.get? name = some (.query r') ∧
      LeftOf q ((s.lastWrite? name steps).or write) r' := by
  induction steps generalizing s r write with
  | nil => exact ⟨r, hget, hleft⟩
  | cons step steps ih =>
    simp only [List.mem_cons, not_or] at hsteps
    obtain ⟨r', hget', hleft'⟩ := step_leftOf hget hleft fun c => (Ne.symm (hsteps c).1)
    rw [lastWrite?, Option.or_assoc]
    exact ih hget' hleft' fun c => (hsteps c).2

/-- What a session answers about a query: its text in any format or in none, its clauses, and the
messages that are sent to have it executed, whatever is replied. -/
structure Shows (s : Session) (name : String) (q : Query) : Prop where
  text : ∀ format, (s.step (.inquire (.render name format))).1 =
    ((q.renderAs format).map Answer.text).mapError SessionError.query
  clause : (s.step (.inquire (.iterationClause name))).1 =
    .ok (.clause q.iterationClause q.coverages.length)
  exchange : ∀ params format reply, (s.step (.inquire (.execute name params format reply))).1 =
    .ok (Inquiry.exchange params (.execute q format) reply)

theorem find_query (hget : s.get? name = some (.query q)) (supply : VariableSupply) :
    (Build.find Object.query? s.objects name).run.run supply = (.ok q, supply) := by
  rw [get?] at hget
  unfold Build.find
  rw [hget]
  rfl

theorem shows_of_get? (hget : s.get? name = some (.query q)) : s.Shows name q := by
  have hfind := find_query hget
  constructor
  · intro format
    simp only [step, withBuilt, Inquiry.answer, Build.run_bind, hfind]
    cases q.renderAs format <;> rfl
  · simp only [step, withBuilt, Inquiry.answer, Build.run_bind, hfind]
    rfl
  · intro params format reply
    simp only [step, withBuilt, Inquiry.answer, Build.run_bind, hfind]
    rfl

/-- Whatever steps are carried out on a query that was just made, writes that fail and questions
included, it keeps its coverages; its payload is what the last successful write makes of the query
as it was made; and this decides all that is shown of it. -/
theorem run_last_write {coverages : List Coverage} (hmade : Query.ofCoverages coverages = .ok q)
    (hget : s.get? name = some (.query q)) {steps : List Step}
    (hsteps : ∀ c, .create name c ∉ steps) :
    ∃ r : Query, (s.run steps).2.get? name = some (.query r) ∧ r.coverages = coverages ∧
      (match s.lastWrite? name steps with
        | none => r.payload = .unset
        | some e => e.perform (.query q) = .ok (.query r)) ∧
      (s.run steps).2.Shows name r := by
  have hfresh : q.coverages = coverages ∧ q.payload = .unset := by
    cases coverages with
    | nil => cases hmade
    | cons c others =>
      cases hmade
      exact ⟨rfl, rfl⟩
  have hstart : LeftOf q none q := rfl
  obtain ⟨r, hr, hleft⟩ := run_leftOf hget hstart hsteps
  rw [Option.or_none] at hleft
  refine ⟨r, hr, ?_, ?_, shows_of_get? hr⟩
  · obtain ⟨p, rfl⟩ := hleft.exists_payload
    exact hfresh.1
  · cases hlast : s.lastWrite? name steps with
    | none =>
      rw [hlast] at hleft
      obtain rfl : r = q := hleft
      exact hfresh.2
    | some e =>
      rw [hlast] at hleft
      exact hleft

/-- A write that fails and a text that is asked for leave the write before them in place. -/
theorem run_last_write_failed :
    let s := ((start 1).run [.create "c" (.coverage ["A"]), .create "q" (.query ["c"])]).2
    let steps : List Step :=
      [.edit "q" .unset, .edit "q" (.returnValue (.number (.int 2))),
        .inquire (.render "q" (some "png")), .edit "q" (.returnValue (.bool true))]
    ∃ r : Query, (s.run steps).2.get? "q" = some (.query r) ∧
      r.payload = .expr (.number (.int 2)) ∧ (s.run steps).2.Shows "q" r := by
  intro s steps
  let c : Coverage := ⟨["A"], "$i1", none⟩
  have hget : s.get? "q" = some (.query ⟨c, [], .unset⟩) := rfl
  have hlast : s.lastWrite? "q" steps = some (.returnValue (.expr (.number (.int 2)))) := rfl
  have hsteps : ∀ c, Step.create "q" c ∉ steps := by
    intro c
    simp [steps]
  have hmade : Query.ofCoverages [c] = .ok ⟨c, [], .unset⟩ := rfl
  obtain ⟨r, hr, -, hwrite, hshows⟩ := run_last_write hmade hget hsteps
  rw [hlast] at hwrite
  cases hwrite
  exact ⟨_, hr, rfl, hshows⟩

end Query

end Session

end CoverageQuery
