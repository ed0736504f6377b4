import CoverageQuery.Session.Basic

/-!
# Failed calls

An edit in place checks what it is given before it assigns anything, so one that fails leaves its
object as it was, and a coverage that is refused takes no variable. So a call that fails changes
nothing at all. The calls that fail can be struck out of a run, and those that remain find, do and
leave the same as before.
-/

namespace CoverageQuery

/-- An operation on an object in place. What it leaves of the object stays, also where it fails. -/
abbrev Mutation := ExceptT SessionError (StateM Object)

/-- What a check that changes nothing gives. -/
def Mutation.check {α : Type} : Except QueryError α → Mutation α
  | .ok a => pure a
  | .error e => throw (.query e)

theorem Mutation.run_get (next : Object → Mutation Unit) (o : Object) :
    (do let o ← get; next o : Mutation Unit).run.run o = (next o).run.run o := rfl

namespace Edit

/-- The edit in place: what it is given is checked, then assigned. -/
def mutate (e : Edit .built) : Mutation Unit := do
  match e, ← get with
  | setVariable var, .coverage c => set (Object.coverage { c with var := var })
  | setNames names, .coverage c =>
    if Coverage.ValidNames names then set (Object.coverage { c with names := names })
    else throw (.query .noCoverage)
  | setSubset axes, .coverage c =>
    if axes = [] then throw (.query .emptySubset)
    else set (Object.coverage { c with subset := some axes })
  | clearSubset, .coverage c => set (Object.coverage { c with subset := none })
  | rename name, .axis a =>
    if Text.Blank name then throw (.query (.invalidAxis .blankName))
    else set (Object.axis { a with name := name })
  | setCondition v, .case c =>
    let condition ← .check (Comparison.ofValue v)
    set (Object.case { c with condition := condition })
  | setResult v, .case c =>
    let result ← .check (CaseResult.ofValue v)
    set (Object.case { c with result := result })
  | setCases cases, .switch s =>
    if cases = [] then throw (.query .emptyCases)
    else set (Object.switch { s with cases := cases })
  | setDefault v, .switch s =>
    let otherwise ← .check (CaseResult.ofValue v)
    set (Object.switch { s with otherwise := otherwise })
  | returnValue v, .query q =>
    let e ← .check v.operand
    set (Object.query (q.withPayload (.expr e)))
  | returnSwitch s, .query q => set (Object.query (q.withPayload (.switch s)))
  | switchOn cases v, .query q =>
    let s ← .check (Switch.ofCases cases v)
    set (Object.query (q.withPayload (.switch s)))
  | construct tuples op, .query q =>
    let g ← .check (Grid.ofTuples tuples op)
    set (Object.query (q.withPayload (.grid g)))
  | clip tuples, .query q =>
    let c ← .check (Clip.ofTuples q.first.var tuples)
    set (Object.query (q.withPayload (.clip c)))
  | unset, .query q => set (Object.query (q.withPayload .unset))
  | _, _ => throw .notApplicable

/-- Nothing is assigned before the last check. -/
theorem run_mutate (e : Edit .built) (o : Object) :
    e.mutate.run.run o = match e.perform o with
      | .ok o' => (.ok (), o')
      | .error error => (.error error, o) := by
  rw [mutate, Mutation.run_get]
  cases e with
  | setNames names =>
    cases o with
    | coverage c =>
      dsimp only [perform, Coverage.setNames]
      split <;> rfl
    | _ => rfl
  | setSubset axes =>
    cases o with
    | coverage c => cases axes <;> rfl
    | _ => rfl
  | rename name =>
    cases o with
    | axis a =>
      dsimp only [perform, AxisSubset.rename]
      split <;> rfl
    | _ => rfl
  | setCondition v =>
    cases o with
    | case c =>
      dsimp only [perform, Case.setCondition]
      cases Comparison.ofValue v <;> rfl
    | _ => rfl
  | setResult v =>
    cases o with
    | case c =>
      dsimp only [perform, Case.setResult]
      cases CaseResult.ofValue v <;> rfl
    | _ => rfl
  | setCases cases =>
    cases o with
    | switch s => cases cases <;> rfl
    | _ => rfl
  | setDefault v =>
    cases o with
    | switch c =>
      dsimp only [perform, Switch.setDefault]
      cases CaseResult.ofValue v <;> rfl
    | _ => rfl
  | returnValue v =>
    cases o with
    | query q =>
      dsimp only [perform, Query.returnValue]
      cases v.operand <;> rfl
    | _ => rfl
  | switchOn cases v =>
    cases o with
    | query q =>
      dsimp only [perform, Query.switchOn]
      cases Switch.ofCases cases v <;> rfl
    | _ => rfl
  | construct tuples op =>
    cases o with
    | query q =>
      dsimp only [perform, Query.construct]
      cases Grid.ofTuples tuples op <;> rfl
    | _ => rfl
  | clip tuples =>
    cases o with
    | query q =>
      dsimp only [perform, Query.clip]
      cases Clip.ofTuples q.first.var tuples <;> rfl
    | _ => rfl
  | setVariable | clearSubset | returnSwitch | unset => cases o <;> rfl

end Edit

/-- A call with built arguments, which may be taken from the objects that are there. -/
inductive Call where
  | create (target : String) (c : Objects → Creation .built)
  | edit (target : String) (e : Objects → Edit .built)

/-- A call that was carried out, with the sessions before and after it. -/
structure Transition where
  before : Session
  call : Call
  outcome : Except SessionError Unit
  after : Session

def Transition.succeeded (t : Transition) : Bool := t.outcome.isOk

/-- Names that are refused take no variable. -/
theorem Coverage.supply_of_allocate_error {names : List String} {supply : VariableSupply}
    {e : QueryError} (h : (allocate names supply).1 = .error e) :
    (allocate names supply).2 = supply := by
  unfold allocate at h ⊢
  split at h
  · cases h
  · rfl

/-- Of all objects only a coverage takes a variable when it is made. -/
theorem Creation.supply_of_perform_error {c : Creation .built} {supply : VariableSupply}
    {e : QueryError} (h : (c.perform supply).1 = .error e) : (c.perform supply).2 = supply := by
  cases c with
  | coverage names =>
    cases hallocate : (Coverage.allocate names supply).1 with
    | ok c =>
      simp only [perform, hallocate] at h
      cases h
    | error e' => exact Coverage.supply_of_allocate_error hallocate
  | _ => rfl

namespace Session

variable {s : Session} {c : Call}

/-- Changes an object in place. What becomes of it stays, also where the edit fails. -/
def editInPlace (s : Session) (target : String) (e : Edit .built) :
    Except SessionError Unit × Session :=
  match s.get? target with
  | none => (.error (.noObject target), s)
  | some o =>
    match e.mutate.run.run o with
    | (.ok (), o') => (.ok (), s.put target o')
    | (.error error, o') => (.error error, if o' = o then s else s.put target o')

theorem editInPlace_eq (s : Session) (target : String) (e : Edit .built) :
    s.editInPlace target e = s.edit target e := by
  unfold editInPlace edit
  cases s.get? target with
  | none => rfl
  | some o =>
    dsimp only
    rw [Edit.run_mutate]
    cases e.perform o with
    | ok o' => rfl
    | error error => exact congrArg _ (if_pos rfl)

def call (s : Session) : Call → Except SessionError Unit × Session
  | .create target c => s.create target (c s.objects)
  | .edit target e => s.editInPlace target (e s.objects)

theorem create_of_error {target : String} {c : Creation .built} {error : SessionError}
    (h : (s.create target c).1 = .error error) : (s.create target c).2 = s := by
  unfold create at h ⊢
  split at h
  · cases h
  · next e supply hperform =>
    have hsupply := Creation.supply_of_perform_error (congrArg Prod.fst hperform)
    rw [hperform] at hsupply
    obtain rfl : supply = s.supply := hsupply
    rfl

theorem edit_of_error {target : String} {e : Edit .built} {error : SessionError}
    (h : (s.edit target e).1 = .error error) : (s.edit target e).2 = s := by
  unfold edit at h ⊢
  cases hget : s.get? target with
  | none => rfl
  | some o =>
    rw [hget] at h
    dsimp only at h ⊢
    cases hperform : e.perform o with
    | ok o' =>
      rw [hperform] at h
      cases h
    | error e' => rfl

theorem call_of_error {error : SessionError} (h : (s.call c).1 = .error error) :
    (s.call c).2 = s := by
  cases c with
  | create target c => exact create_of_error h
  | edit target e =>
    rw [call, editInPlace_eq] at h ⊢
    exact edit_of_error h

def transition (s : Session) (c : Call) : Transition := ⟨s, c, (s.call c).1, (s.call c).2⟩

theorem after_transition_of_failed (h : (s.transition c).succeeded = false) :
    (s.transition c).after = s := by
  cases houtcome : (s.call c).1 with
  | ok u =>
    rw [Transition.succeeded, transition, houtcome] at h
    cases h
  | error error => exact call_of_error houtcome

/-- The transitions of a run, each from the session that the one before it left. -/
def transitions (s : Session) : List Call → List Transition
  | [] => []
  | c :: calls => s.transition c :: (s.transition c).after.transitions calls

/-- The session after some calls. -/
def afterCalls (s : Session) : List Call → Session
  | [] => s
  | c :: calls => (s.transition c).after.afterCalls calls

theorem after_eq_before (s : Session) (calls : List Call) :
    ∀ t ∈ s.transitions calls, t.succeeded = false → t.after = t.before := by
  induction calls generalizing s with
  | nil => exact nofun
  | cons c calls ih =>
    rw [transitions, List.forall_mem_cons]
    exact ⟨after_transition_of_failed, ih _⟩

/-- The induction is on the calls: a failed one hands on the session that it found, so the rest
does not notice when it is struck out. -/
theorem run_kept (s : Session) (calls : List Call) :
    let kept := (s.transitions calls).filter (·.succeeded)
    s.transitions (kept.map Transition.call) = kept ∧
      s.afterCalls (kept.map Transition.call) = s.afterCalls calls := by
  induction calls generalizing s with
  | nil => exact ⟨rfl, rfl⟩
  | cons c calls ih =>
    obtain ⟨htransitions, hafter⟩ := ih (s.transition c).after
    dsimp only
    rw [transitions, afterCalls, List.filter_cons]
    cases h : (s.transition c).succeeded with
    | true =>
      rw [if_pos rfl, List.map_cons]
      exact ⟨congrArg (s.transition c :: ·) htransitions, hafter⟩
    | false =>
      rw [if_neg nofun]
      rw [after_transition_of_failed h] at htransitions hafter ⊢
      exact ⟨htransitions, hafter⟩

/-- Every call that fails leaves all objects and the supply as they were. Without the calls that
fail, a run ends in the same session, and every call that remains finds the session that it found,
has the outcome that it had and leaves the session that it left. -/
theorem transitions_without_failed (s : Session) (calls : List Call) :
    let kept := (s.transitions calls).filter (·.succeeded)
    (∀ t ∈ s.transitions calls, t.succeeded = false →
        t.after.objects = t.before.objects ∧ t.after.supply = t.before.supply) ∧
      s.transitions (kept.map Transition.call) = kept ∧
      s.afterCalls (kept.map Transition.call) = s.afterCalls calls := by
  intro kept
  refine ⟨fun t ht hfailed => ?_, s.run_kept calls⟩
  rw [s.after_eq_before calls t ht hfailed]
  exact ⟨rfl, rfl⟩

end Session

end CoverageQuery
