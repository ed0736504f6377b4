import CoverageQuery.Proofs.Steps
import CoverageQuery.Session.Basic

/-!
# What a step adds

A step adds at most one object to a session: the one that it makes, or the changed form of one that
was there, which hides the old form from then on. No object is lost, and a step that fails adds
nothing.
-/

namespace CoverageQuery

namespace Edit

theorem ofQuery_map_eq_ok_iff {α : Type} {result : Except QueryError α} {f : α → Object}
    {o : Object} :
    perform.ofQuery (f <$> result) = .ok o ↔ ∃ a, result = .ok a ∧ f a = o := by
  rw [← map_eq_ok_iff, perform.ofQuery]
  constructor
  · intro h
    cases hmapped : f <$> result with
    | ok a =>
      rw [hmapped] at h
      cases h
      rfl
    | error e =>
      rw [hmapped] at h
      cases h
  · intro h
    rw [h]
    rfl

end Edit

namespace Session

section Calls

variable {s : Session} {target : String} {o : Object}

/-- The object that a creation makes, if it is not refused. -/
def made? (s : Session) (c : Creation .built) : Option Object := (c.perform s.supply).1.toOption

/-- What an edit makes of its target, if there is one and the edit is not refused. -/
def changed? (s : Session) (target : String) (e : Edit .built) : Option Object :=
  (s.get? target).bind fun o => (e.perform o).toOption

theorem create_of_made {c : Creation .built} (h : s.made? c = some o) :
    ∃ supply, s.create target c = (.ok (), { s with supply := supply }.put target o) := by
  have hmade := toOption_eq_some_iff.mp h
  unfold create
  split
  · next o' supply ho =>
    rw [ho] at hmade
    cases hmade
    exact ⟨supply, rfl⟩
  · next e supply he =>
    rw [he] at hmade
    cases hmade

theorem create_of_not_made {c : Creation .built} (h : s.made? c = none) :
    ∃ error supply, s.create target c = (.error error, { s with supply := supply }) := by
  unfold made? at h
  unfold create
  split
  · next o supply ho =>
    rw [ho] at h
    cases h
  · next e supply he => exact ⟨.query e, supply, rfl⟩

theorem edit_of_changed {e : Edit .built} (h : s.changed? target e = some o) :
    s.edit target e = (.ok (), s.put target o) := by
  obtain ⟨old, hold, hperform⟩ := Option.bind_eq_some_iff.mp h
  unfold edit
  rw [hold]
  dsimp only
  rw [toOption_eq_some_iff.mp hperform]

theorem edit_of_not_changed {e : Edit .built} (h : s.changed? target e = none) :
    ∃ error, s.edit target e = (.error error, s) := by
  unfold changed? at h
  unfold edit
  split
  · exact ⟨_, rfl⟩
  · next old hold =>
    rw [hold, Option.bind_some] at h
    split
    · next o ho =>
      rw [ho] at h
      cases h
    · next error herror => exact ⟨error, rfl⟩

end Calls

/-- The session after the arguments of a call are built, with what is built of them. -/
def built? {α : Type} (s : Session) (build : Objects → Build α) : Option (α × Session) :=
  match (build s.objects).run.run s.supply with
  | (.ok a, supply) => some (a, { s with supply := supply })
  | (.error _, _) => none

section WithBuilt

variable {α β : Type} {s s' : Session} {build : Objects → Build α} {a : α}

theorem built?_eq_some (h : s.built? build = some (a, s')) :
    ∃ supply, (build s.objects).run.run s.supply = (.ok a, supply) ∧
      s' = { s with supply := supply } := by
  unfold built? at h
  split at h
  · next a supply ha =>
    cases h
    exact ⟨supply, ha, rfl⟩
  · cases h

theorem withBuilt_of_built (h : s.built? build = some (a, s'))
    (next : α → Session → Except SessionError β × Session) :
    s.withBuilt build next = next a s' := by
  obtain ⟨supply, ha, rfl⟩ := built?_eq_some h
  rw [withBuilt, ha]

/-- Where nothing is built, the call fails before anything is done. -/
theorem withBuilt_of_not_built (h : s.built? build = none)
    (next : α → Session → Except SessionError β × Session) :
    ∃ error supply, s.withBuilt build next = (.error error, { s with supply := supply }) := by
  unfold built? at h
  split at h
  · cases h
  · next e supply he => exact ⟨e, supply, by rw [withBuilt, he]⟩

end WithBuilt

/-- The object that a step adds, with its name. -/
def added? (s : Session) : Step → Option (String × Object)
  | .create target c => (s.built? c.resolve).bind fun (c, s) => (s.made? c).map (target, ·)
  | .edit target e => (s.built? e.resolve).bind fun (e, s) => (s.changed? target e).map (target, ·)
  | .nextVariable | .inquire _ => none

section Step

variable {s : Session} {step : Step} {target : String}

theorem step_create (s : Session) (target : String) (c : Creation .written) :
    s.step (.create target c) = s.withBuilt c.resolve fun c s =>
      ((s.create target c).1.map fun _ => .done, (s.create target c).2) := rfl

theorem step_edit (s : Session) (target : String) (e : Edit .written) :
    s.step (.edit target e) = s.withBuilt e.resolve fun e s =>
      ((s.edit target e).1.map fun _ => .done, (s.edit target e).2) := rfl

theorem step_inquire (s : Session) (i : Inquiry) :
    s.step (.inquire i) = s.withBuilt i.answer fun a s => (.ok a, s) := rfl

theorem step_of_added {o : Object} (h : s.added? step = some (target, o)) :
    ∃ supply, s.step step = (.ok .done, { s with supply := supply }.put target o) := by
  cases step with
  | nextVariable | inquire i => cases h
  | create target c =>
    obtain ⟨⟨c, s'⟩, hbuilt, hadded⟩ := Option.bind_eq_some_iff.mp h
    obtain ⟨o, ho, ⟨⟩⟩ := Option.map_eq_some_iff.mp hadded
    obtain ⟨supply, hcreate⟩ := create_of_made ho
    rw [step_create, withBuilt_of_built hbuilt, hcreate]
    obtain ⟨-, -, rfl⟩ := built?_eq_some hbuilt
    exact ⟨supply, rfl⟩
  | edit target e =>
    obtain ⟨⟨e, s'⟩, hbuilt, hadded⟩ := Option.bind_eq_some_iff.mp h
    obtain ⟨o, ho, ⟨⟩⟩ := Option.map_eq_some_iff.mp hadded
    rw [step_edit, withBuilt_of_built hbuilt, edit_of_changed ho]
    obtain ⟨supply, -, rfl⟩ := built?_eq_some hbuilt
    exact ⟨supply, rfl⟩

theorem create_of_not_added {c : Creation .written} (h : s.added? (.create target c) = none) :
    ∃ error supply, s.step (.create target c) = (.error error, { s with supply := supply }) := by
  rw [step_create]
  cases hbuilt : s.built? c.resolve with
  | none => exact withBuilt_of_not_built hbuilt _
  | some built =>
    obtain ⟨c', s'⟩ := built
    rw [added?, hbuilt, Option.bind_some, Option.map_eq_none_iff] at h
    obtain ⟨error, supply, hcreate⟩ := create_of_not_made h
    rw [withBuilt_of_built hbuilt, hcreate]
    obtain ⟨-, -, rfl⟩ := built?_eq_some hbuilt
    exact ⟨error, supply, rfl⟩

theorem edit_of_not_added {e : Edit .written} (h : s.added? (.edit target e) = none) :
    ∃ error supply, s.step (.edit target e) = (.error error, { s with supply := supply }) := by
  rw [step_edit]
  cases hbuilt : s.built? e.resolve with
  | none => exact withBuilt_of_not_built hbuilt _
  | some built =>
    obtain ⟨e', s'⟩ := built
    rw [added?, hbuilt, Option.bind_some, Option.map_eq_none_iff] at h
    obtain ⟨error, hedit⟩ := edit_of_not_changed h
    rw [withBuilt_of_built hbuilt, hedit]
    obtain ⟨supply, -, rfl⟩ := built?_eq_some hbuilt
    exact ⟨error, supply, rfl⟩

theorem objects_inquire (s : Session) (i : Inquiry) :
    (s.step (.inquire i)).2.objects = s.objects := by
  rw [step_inquire]
  cases hbuilt : s.built? i.answer with
  | none =>
    obtain ⟨error, supply, hfailed⟩ :=
      withBuilt_of_not_built hbuilt fun (a : Answer) (s : Session) => (.ok a, s)
    rw [hfailed]
  | some built =>
    obtain ⟨a, s'⟩ := built
    rw [withBuilt_of_built hbuilt]
    obtain ⟨supply, -, rfl⟩ := built?_eq_some hbuilt
    rfl

theorem objects_step (s : Session) (step : Step) :
    (s.step step).2.objects = (s.added? step).toList ++ s.objects := by
  cases hadded : s.added? step with
  | some entry =>
    obtain ⟨supply, hstep⟩ := step_of_added hadded
    rw [hstep]
    rfl
  | none =>
    cases step with
    | nextVariable => rfl
    | create target c =>
      obtain ⟨error, supply, hfailed⟩ := create_of_not_added hadded
      rw [hfailed]
      rfl
    | edit target e =>
      obtain ⟨error, supply, hfailed⟩ := edit_of_not_added hadded
      rw [hfailed]
      rfl
    | inquire i => exact s.objects_inquire i

end Step

end Session

end CoverageQuery
