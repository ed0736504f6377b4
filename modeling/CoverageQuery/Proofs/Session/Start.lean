import CoverageQuery.Proofs.Session.Renaming

/-!
# Where the counter starts

A session that starts at another number does the same with other variables: the same steps succeed,
the others fail for the same reasons, and the objects differ in their variables only. Different
variables stay apart when they are moved, so that comparisons give the same answers.
-/

namespace CoverageQuery

/-- The number that a variable of a supply was given. -/
def variableNumber? (name : String) : Option UInt64 :=
  let n := UInt64.ofNat (digitsValue (name.toList.drop 2))
  if variableName n = name then some n else none

theorem variableNumber?_variableName (n : UInt64) : variableNumber? (variableName n) = some n := by
  have hdigits : digitsValue ((variableName n).toList.drop 2) = n.toNat := by
    rw [variableName, String.toList_ofList]
    exact digitsValue_digitChars n.toNat
  rw [variableNumber?, hdigits, UInt64.ofNat_toNat]
  exact if_pos rfl

theorem eq_of_variableNumber? {name : String} {n : UInt64} (h : variableNumber? name = some n) :
    name = variableName n := by
  dsimp only [variableNumber?] at h
  split at h
  · next hname =>
    cases h
    exact hname.symm
  · cases h

/-- The variable at the same distance from the second number as the given one from the first. What
no supply hands out stays as it is. -/
def movedVariable (first second : UInt64) (name : String) : String :=
  match variableNumber? name with
  | some n => variableName (n - first + second)
  | none => name

theorem movedVariable_variableName (first second n : UInt64) :
    movedVariable first second (variableName n) = variableName (n - first + second) := by
  rw [movedVariable, variableNumber?_variableName]

theorem shifts_movedVariable (first second : UInt64) :
    Shifts (movedVariable first second) (second - first) := by
  intro n
  rw [movedVariable_variableName]
  congr 1
  grind

theorem variableNumber?_movedVariable (first second : UInt64) (name : String) :
    variableNumber? (movedVariable first second name) =
      (variableNumber? name).map fun n => n - first + second := by
  unfold movedVariable
  cases h : variableNumber? name with
  | none => exact h
  | some n => exact variableNumber?_variableName _

theorem movedVariable_injective (first second : UInt64) :
    Function.Injective (movedVariable first second) := by
  intro a b h
  have hmoved := congrArg variableNumber? h
  rw [variableNumber?_movedVariable, variableNumber?_movedVariable] at hmoved
  have hinj : Function.Injective fun n : UInt64 => n - first + second :=
    fun m n heq => (UInt64.sub_left_inj _).mp ((UInt64.add_left_inj _).mp heq)
  have hnumber : variableNumber? a = variableNumber? b := Option.map_injective hinj hmoved
  cases hb : variableNumber? b with
  | none =>
    rw [movedVariable, movedVariable, hnumber, hb] at h
    exact h
  | some n => rw [eq_of_variableNumber? (hnumber.trans hb), eq_of_variableNumber? hb]

variable {f : String → String} {d : UInt64}

/-- A coverage is bound to a variable that does not come from the supply. -/
def Step.OverridesVariable : Step → Prop
  | create _ c => c.OverridesVariable
  | edit _ e => e.OverridesVariable
  | nextVariable | inquire _ => False

/-- Variables can be seen in the answer. -/
def Step.ShowsVariables : Step → Prop
  | nextVariable | inquire (.render _ _) | inquire (.iterationClause _)
  | inquire (.execute _ _ _ _) => True
  | _ => False

/-- The second answer is what the step shows of renamed objects. The first is what it shows of the
objects themselves. -/
inductive Answer.Alike (f : String → String) (objects : Objects) : Step → Answer → Answer → Prop
  | same {step : Step} {a : Answer} (h : ¬step.ShowsVariables) : Alike f objects step a a
  | variable (name : String) : Alike f objects .nextVariable (.variable name) (.variable (f name))
  | text {name : String} {format : Option String} {q : Query} {t t' : String}
      (hq : objects.lookup name = some (.query q)) (h : q.renderAs format = .ok t)
      (h' : (q.mapVars f).renderAs format = .ok t') :
      Alike f objects (.inquire (.render name format)) (.text t) (.text t')
  | clause {name : String} {q : Query} (hq : objects.lookup name = some (.query q)) :
      Alike f objects (.inquire (.iterationClause name))
        (.clause q.iterationClause q.coverages.length)
        (.clause (q.mapVars f).iterationClause q.coverages.length)
  | exchange {name : String} {params : ServiceParams} {format : Option String} {reply : Response}
      {q : Query} {sent sent' : List Message} {result : Except QueryError Response}
      (hq : objects.lookup name = some (.query q))
      (h : Inquiry.exchange params (.execute q format) reply = .exchange sent result)
      (h' : Inquiry.exchange params (.execute (q.mapVars f) format) reply =
        .exchange sent' result) :
      Alike f objects (.inquire (.execute name params format reply)) (.exchange sent result)
        (.exchange sent' result)

/-- Whether there is a text depends on the format only. -/
theorem Query.agree_renderAs (f : String → String) (q : Query) (format : Option String) :
    Agree (fun t t' => q.renderAs format = .ok t ∧ (q.mapVars f).renderAs format = .ok t')
      (q.renderAs format) ((q.mapVars f).renderAs format) := by
  cases format with
  | none => exact .ok ⟨rfl, rfl⟩
  | some name =>
    dsimp only [renderAs]
    cases OutputFormat.known name with
    | ok format => exact .ok ⟨rfl, rfl⟩
    | error e => exact .error e

namespace Inquiry

open Build (Matches Renames)

theorem matches_query (f : String → String) (objects : Objects) (name : String) :
    Matches d (fun q q' => objects.lookup name = some (.query q) ∧ q' = q.mapVars f)
      (Build.find Object.query? objects name)
      (Build.find Object.query? (objects.mapVars f) name) := by
  unfold Build.find
  rw [Objects.lookup_mapVars]
  cases objects.lookup name with
  | none => exact .throw _
  | some o =>
    cases o with
    | query q => exact .pure ⟨rfl, rfl⟩
    | _ => exact .throw _

/-- A query is sent as its text, or refused where it has none. -/
theorem alike_execute (f : String → String) {objects : Objects} {name : String} {q : Query}
    (hq : objects.lookup name = some (.query q)) (params : ServiceParams) (format : Option String)
    (reply : Response) : Answer.Alike f objects (.inquire (.execute name params format reply))
      (exchange params (.execute q format) reply)
      (exchange params (.execute (q.mapVars f) format) reply) := by
  have exchange_ok {r : Query} {t : String} (h : r.renderAs format = .ok t) :
      exchange params (.execute r format) reply = .exchange [.query params t] (.ok reply) := by
    simp only [exchange, Channel.perform, Errand.message, h]
    cases reply <;> rfl
  have exchange_error {r : Query} {e : QueryError} (h : r.renderAs format = .error e) :
      exchange params (.execute r format) reply = .exchange [] (.error e) := by
    simp only [exchange, Channel.perform, Errand.message, h]
    rfl
  generalize h : q.renderAs format = text
  generalize h' : (q.mapVars f).renderAs format = text'
  have hagree := q.agree_renderAs f format
  rw [h, h'] at hagree
  cases hagree with
  | ok _ =>
    rw [exchange_ok h, exchange_ok h']
    exact .exchange hq (exchange_ok h) (exchange_ok h')
  | error e =>
    rw [exchange_error h, exchange_error h']
    exact .exchange hq (exchange_error h) (exchange_error h')

theorem matches_answer (hinj : Function.Injective f) (hf : Shifts f d) (objects : Objects)
    (i : Inquiry) : Matches d (Answer.Alike f objects (.inquire i)) (i.answer objects)
      (i.answer (objects.mapVars f)) := by
  cases i with
  | render name format =>
    refine (matches_query f objects name).bind ?_
    rintro q _ ⟨hq, rfl⟩
    refine (Matches.ofQuery (q.agree_renderAs f format)).bind ?_
    rintro t t' ⟨h, h'⟩
    exact .pure (.text hq h h')
  | iterationClause name =>
    refine (matches_query f objects name).bind ?_
    rintro q _ ⟨hq, rfl⟩
    have hlength : (q.mapVars f).coverages.length = q.coverages.length := by
      rw [Query.coverages_mapVars, List.length_map]
    rw [hlength]
    exact .pure (.clause hq)
  | execute name params format reply =>
    refine (matches_query f objects name).bind ?_
    rintro q _ ⟨hq, rfl⟩
    exact .pure (alike_execute f hq params format reply)
  | send params request subsets reply =>
    refine (Renames.mapM (AxisRecipe.renames_build f objects) subsets).bind ?_
    rintro axes _ rfl
    rw [List.map_id]
    exact .pure (.same id)
  | sameObjects first second =>
    have hfind (name : String) : Renames d (Object.mapVars f) (Build.find some objects name)
        (Build.find some (objects.mapVars f) name) := Renames.find (fun _ => rfl) objects name
    refine (hfind first).bind ?_
    rintro a _ rfl
    refine (hfind second).bind ?_
    rintro b _ rfl
    rw [Object.sameValue_mapVars hinj]
    exact .pure (.same id)
  | sameValues first second =>
    refine (first.renames_build hf objects).bind ?_
    rintro a _ rfl
    refine (second.renames_build hf objects).bind ?_
    rintro b _ rfl
    rw [Value.sameValue_mapVars hinj]
    exact .pure (.same id)

end Inquiry

namespace Session

/-- The session with its variables renamed and its supply ahead. -/
def renamed (f : String → String) (d : UInt64) (s : Session) : Session :=
  ⟨s.supply.shift d, s.objects.mapVars f⟩

/-- The second outcome agrees with the first, and leaves the session that the first leaves,
renamed. -/
def Tracks {α β : Type} (f : String → String) (d : UInt64) (R : α → β → Prop)
    (one : Except SessionError α × Session) (two : Except SessionError β × Session) : Prop :=
  Agree R one.1 two.1 ∧ two.2 = one.2.renamed f d

theorem tracks_withBuilt {α β : Type} {s : Session} {build : Objects → Build α}
    {next : α → Session → Except SessionError β × Session} {R : α → α → Prop} {S : β → β → Prop}
    (hbuild : Build.Matches d R (build s.objects) (build (s.objects.mapVars f)))
    (hnext : ∀ a a', R a a' → ∀ s : Session, Tracks f d S (next a s) (next a' (s.renamed f d))) :
    Tracks f d S (s.withBuilt build next) ((s.renamed f d).withBuilt build next) := by
  obtain ⟨hagree, hleft⟩ := hbuild s.supply
  unfold withBuilt
  dsimp only [renamed]
  generalize (build s.objects).run.run s.supply = one at hagree hleft
  generalize (build (s.objects.mapVars f)).run.run (s.supply.shift d) = two at hagree hleft
  obtain ⟨result, left⟩ := one
  obtain ⟨result', left'⟩ := two
  obtain rfl : left' = left.shift d := hleft
  cases hagree with
  | ok h => exact hnext _ _ h ⟨left, s.objects⟩
  | error e => exact ⟨.error e, rfl⟩

theorem create_renamed (hf : Shifts f d) (s : Session) (target : String) (c : Creation .built) :
    (s.renamed f d).create target (c.mapVars f) =
      ((s.create target c).1, (s.create target c).2.renamed f d) := by
  unfold create
  rw [renamed, Creation.perform_mapVars hf]
  obtain ⟨result, supply⟩ := c.perform s.supply
  cases result <;> rfl

theorem edit_renamed (f : String → String) (s : Session) (target : String) (e : Edit .built) :
    (s.renamed f d).edit target (e.mapVars f) =
      ((s.edit target e).1, (s.edit target e).2.renamed f d) := by
  have hget : (s.renamed f d).get? target = (s.get? target).map (Object.mapVars f) :=
    Objects.lookup_mapVars f s.objects target
  unfold edit
  rw [hget]
  cases s.get? target with
  | none => rfl
  | some o =>
    rw [Option.map_some]
    dsimp only
    rw [Edit.perform_mapVars]
    cases e.perform o <;> rfl

/-- A call that was carried out on renamed objects is answered in the same way. -/
theorem tracks_call {step : Step} {objects : Objects} (hstep : ¬step.ShowsVariables)
    {result : Except SessionError Unit} {s : Session} :
    Tracks f d (Answer.Alike f objects step) (result.map fun _ => .done, s)
      (result.map fun _ => .done, s.renamed f d) := by
  cases result with
  | ok u => exact ⟨.ok (.same hstep), rfl⟩
  | error e => exact ⟨.error e, rfl⟩

theorem tracks_step (hinj : Function.Injective f) (hf : Shifts f d) (s : Session) {step : Step}
    (hstep : ¬step.OverridesVariable) :
    Tracks f d (Answer.Alike f s.objects step) (s.step step) ((s.renamed f d).step step) := by
  cases step with
  | nextVariable =>
    have htake := hf.take s.supply
    simp only [Session.step, renamed, htake]
    exact ⟨.ok (.variable _), rfl⟩
  | create target c =>
    refine tracks_withBuilt (Creation.renames_resolve hf s.objects hstep) ?_
    rintro c _ rfl s
    dsimp only
    rw [create_renamed hf]
    exact tracks_call id
  | edit target e =>
    refine tracks_withBuilt (Edit.renames_resolve hf s.objects hstep) ?_
    rintro e _ rfl s
    dsimp only
    rw [edit_renamed f]
    exact tracks_call id
  | inquire i =>
    refine tracks_withBuilt (i.matches_answer hinj hf s.objects) ?_
    intro a a' h s
    exact ⟨.ok h, rfl⟩

/-- The induction is on the steps: what a step leaves is renamed as what it found was. -/
theorem run_renamed (hinj : Function.Injective f) (hf : Shifts f d) (s : Session)
    {steps : List Step} (hsteps : ∀ step ∈ steps, ¬step.OverridesVariable) :
    ((s.renamed f d).run steps).2 = (s.run steps).2.renamed f d := by
  induction steps generalizing s with
  | nil => rfl
  | cons step steps ih =>
    rw [List.forall_mem_cons] at hsteps
    have hleft := (tracks_step hinj hf s hsteps.1).2
    simp only [run]
    rw [hleft]
    exact ih _ hsteps.2

/-- The answer to a step among others is what it answers after those before it. -/
theorem getElem?_run (s : Session) (before : List Step) (step : Step) (after : List Step) :
    (s.run (before ++ step :: after)).1[before.length]? =
      some ((s.run before).2.step step).1 := by
  induction before generalizing s with
  | nil => rfl
  | cons first before ih => exact ih _

/-- Whatever is done in two sessions that start at different numbers, none of it with a variable
that does not come from the supply: the objects of the second are those of the first with every
variable moved, after all steps and so also after some of them. Each step succeeds in both or fails
in both for the same reason, and it gives the same answer, except that a variable that is taken is
moved and that a query is shown as it is when its variables are moved. -/
theorem run_start_moved (first second : UInt64) {steps : List Step}
    (hsteps : ∀ step ∈ steps, ¬step.OverridesVariable) :
    let f := movedVariable first second
    let one := (start first).run steps
    let two := (start second).run steps
    (∀ n, f (variableName n) = variableName (n - first + second)) ∧
      two.2.objects = one.2.objects.mapVars f ∧
      two.2.supply.next = one.2.supply.next - first + second ∧
      ∀ before step after, steps = before ++ step :: after →
        ∃ a b, one.1[before.length]? = some a ∧ two.1[before.length]? = some b ∧
          Agree (Answer.Alike f ((start first).run before).2.objects step) a b := by
  intro f one two
  have hinj : Function.Injective f := movedVariable_injective first second
  have hf : Shifts f (second - first) := shifts_movedVariable first second
  have hstart : start second = (start first).renamed f (second - first) := by
    have hnext : second = first + (second - first) := by grind
    exact congrArg (fun n => Session.mk ⟨n⟩ []) hnext
  have hrun : two.2 = one.2.renamed f (second - first) := by
    show ((start second).run steps).2 = _
    rw [hstart]
    exact run_renamed hinj hf (start first) hsteps
  refine ⟨movedVariable_variableName first second, ?_, ?_, ?_⟩
  · rw [hrun]
    rfl
  · have hnext : two.2.supply.next = one.2.supply.next + (second - first) := by
      rw [hrun]
      rfl
    rw [hnext]
    grind
  · rintro before step after rfl
    have hbefore : ∀ step ∈ before, ¬step.OverridesVariable :=
      fun step hmem => hsteps step (List.mem_append_left _ hmem)
    refine ⟨_, _, getElem?_run _ before step after, getElem?_run _ before step after, ?_⟩
    rw [hstart, run_renamed hinj hf _ hbefore]
    exact (tracks_step hinj hf _ (hsteps step (by simp))).1

/-- The second coverage is the first one after the counter has come round. -/
theorem run_start_moved_clip :
    let steps : List Step :=
      [.create "a" (.coverage ["A"]), .create "b" (.coverage [" "]), .create "b" (.coverage ["A"]),
        .create "q" (.query ["b"]), .edit "q" (.clip [[.number (.int 1), .number (.int 2)]])]
    let one := (start 18446744073709551615).run steps
    let two := (start 7).run steps
    (∀ step ∈ steps, ¬step.OverridesVariable) ∧
      ∃ q q' : Query, one.2.get? "q" = some (.query q) ∧ two.2.get? "q" = some (.query q') ∧
        q' = q.mapVars (movedVariable 18446744073709551615 7) ∧
        q.render = "for $i0 in (A) return clip($i0, POLYGON((1 2)))" ∧
        q'.render = "for $i8 in (A) return clip($i8, POLYGON((1 2)))" := by
  intro steps one two
  have hsteps : ∀ step ∈ steps, ¬step.OverridesVariable := by
    simp [steps, Step.OverridesVariable, Creation.OverridesVariable, Edit.OverridesVariable]
  obtain ⟨-, hobjects, -⟩ := run_start_moved 18446744073709551615 7 hsteps
  let q : Query := ⟨⟨["A"], "$i0", none⟩, [], .clip ⟨"$i0", [⟨.int 1, .int 2⟩]⟩⟩
  have hget : one.2.get? "q" = some (.query q) := by rfl
  refine ⟨hsteps, q, _, hget, ?_, rfl, by decide +kernel, by decide +kernel⟩
  rw [get?, hobjects, Objects.lookup_mapVars]
  exact congrArg (Option.map _) hget

end Session

end CoverageQuery
