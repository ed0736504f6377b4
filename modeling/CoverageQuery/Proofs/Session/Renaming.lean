import CoverageQuery.Proofs.Coverage.Freshness
import CoverageQuery.Proofs.Query.Renaming
import CoverageQuery.Proofs.Session.Build
import CoverageQuery.Session.Basic

/-!
# Renamed objects

What is built of renamed objects is what is built of the objects themselves, renamed: the variables
that are already there by any map, and those that come from the supply on the way if the map takes
each of them to the one that a supply some numbers ahead hands out. What fails fails for the same
reason. So calls see nothing of a variable but its name, and pass it on.
-/

namespace CoverageQuery

/-- Both fail for the same reason, or both succeed with related results. -/
inductive Agree {ε α β : Type} (R : α → β → Prop) : Except ε α → Except ε β → Prop
  | ok {a : α} {b : β} (h : R a b) : Agree R (.ok a) (.ok b)
  | error (e : ε) : Agree R (.error e) (.error e)

theorem agree_map {ε α β : Type} (g : α → β) (result : Except ε α) :
    Agree (fun a b => b = g a) result (g <$> result) := by
  cases result with
  | ok a => exact .ok rfl
  | error e => exact .error e

/-- The supply that is some numbers ahead. -/
def VariableSupply.shift (d : UInt64) (s : VariableSupply) : VariableSupply := ⟨s.next + d⟩

variable {f : String → String} {d : UInt64}

/-- Every variable of a supply becomes the one that is some numbers ahead. -/
def Shifts (f : String → String) (d : UInt64) : Prop :=
  ∀ n, f (variableName n) = variableName (n + d)

theorem Shifts.take (hf : Shifts f d) (s : VariableSupply) :
    (s.shift d).take = (f s.take.1, s.take.2.shift d) := by
  have hvar : variableName (s.next + d) = f (variableName s.next) := (hf s.next).symm
  have hnext : s.next + d + 1 = s.next + 1 + d := by
    rw [UInt64.add_assoc, UInt64.add_comm d, ← UInt64.add_assoc]
  exact Prod.ext hvar (congrArg VariableSupply.mk hnext)

theorem Shifts.allocate (hf : Shifts f d) (names : List String) (s : VariableSupply) :
    Coverage.allocate names (s.shift d) = (Coverage.mapVar f <$> (Coverage.allocate names s).1,
      (Coverage.allocate names s).2.shift d) := by
  rw [Coverage.allocate, Coverage.allocate, hf.take, Coverage.ofNames_map]
  cases Coverage.ofNames names s.take.1 <;> rfl

namespace Object

def mapVars (f : String → String) : Object → Object
  | coverage c => coverage (c.mapVar f)
  | axis a => axis a
  | value v => value (v.mapVars f)
  | case c => case (c.mapVars f)
  | switch s => switch (s.mapVars f)
  | query q => query (q.mapVars f)

theorem value?_mapVars (f : String → String) (o : Object) :
    (o.mapVars f).value? = o.value?.map (Value.mapVars f) := by
  cases o <;> rfl

theorem coverage?_mapVars (f : String → String) (o : Object) :
    (o.mapVars f).coverage? = o.coverage?.map (Coverage.mapVar f) := by
  cases o <;> rfl

theorem axis?_mapVars (f : String → String) (o : Object) :
    (o.mapVars f).axis? = o.axis?.map id := by
  cases o <;> rfl

theorem case?_mapVars (f : String → String) (o : Object) :
    (o.mapVars f).case? = o.case?.map (Case.mapVars f) := by
  cases o <;> rfl

theorem switch?_mapVars (f : String → String) (o : Object) :
    (o.mapVars f).switch? = o.switch?.map (Switch.mapVars f) := by
  cases o <;> rfl

theorem sameValue_mapVars (hf : Function.Injective f) (a b : Object) :
    (a.mapVars f).sameValue (b.mapVars f) = a.sameValue b := by
  cases a <;> cases b <;> simp only [mapVars, sameValue, Coverage.sameValue_mapVar hf,
    Value.sameValue_mapVars hf, Case.sameValue_mapVars hf, Switch.sameValue_mapVars hf,
    Query.sameValue_mapVars hf]

end Object

namespace Objects

def mapVars (f : String → String) (objects : Objects) : Objects :=
  objects.map fun entry => (entry.1, entry.2.mapVars f)

theorem lookup_mapVars (f : String → String) (objects : Objects) (name : String) :
    (objects.mapVars f).lookup name = (objects.lookup name).map (Object.mapVars f) := by
  induction objects with
  | nil => rfl
  | cons entry objects ih =>
    rw [mapVars, List.map_cons, List.lookup_cons, List.lookup_cons, ← mapVars, ih]
    split <;> rfl

end Objects

namespace Build

variable {α β γ δ : Type}

/-- From a supply that is ahead, `b'` builds what is related to what `b` builds and leaves a supply
that is ahead as much, or it fails as `b` does. -/
def Matches (d : UInt64) (R : α → β → Prop) (b : Build α) (b' : Build β) : Prop :=
  ∀ supply, Agree R (b.run.run supply).1 (b'.run.run (supply.shift d)).1 ∧
    (b'.run.run (supply.shift d)).2 = (b.run.run supply).2.shift d

/-- What `b'` builds is a function of what `b` builds. -/
abbrev Renames (d : UInt64) (g : α → β) : Build α → Build β → Prop := Matches d fun a b => b = g a

namespace Matches

variable {R : α → β → Prop} {S : γ → δ → Prop}

theorem pure {a : α} {b : β} (h : R a b) : Matches d R (pure a) (pure b) :=
  fun _ => ⟨.ok h, rfl⟩

theorem throw (e : SessionError) : Matches d R (throw e) (throw e) :=
  fun _ => ⟨.error e, rfl⟩

theorem bind {b : Build α} {b' : Build β} {next : α → Build γ} {next' : β → Build δ}
    (hb : Matches d R b b') (hnext : ∀ a a', R a a' → Matches d S (next a) (next' a')) :
    Matches d S (b >>= next) (b' >>= next') := by
  intro supply
  rw [run_bind, run_bind]
  obtain ⟨hagree, hleft⟩ := hb supply
  generalize b.run.run supply = one at hagree hleft
  generalize b'.run.run (supply.shift d) = two at hagree hleft
  obtain ⟨result, left⟩ := one
  obtain ⟨result', left'⟩ := two
  obtain rfl : left' = left.shift d := hleft
  cases hagree with
  | ok h => exact hnext _ _ h left
  | error e => exact ⟨.error e, rfl⟩

theorem ofQuery {result : Except QueryError α} {result' : Except QueryError β}
    (h : Agree R result result') : Matches d R (ofQuery result) (ofQuery result') := by
  cases h with
  | ok h => exact .pure h
  | error e => exact .throw _

end Matches

namespace Renames

variable {g : α → β}

theorem ofQuery {result : Except QueryError α} {result' : Except QueryError β}
    (h : result' = g <$> result) : Renames d g (ofQuery result) (ofQuery result') := by
  rw [h]
  exact Matches.ofQuery (agree_map g result)

theorem mapM {b : γ → Build α} {b' : γ → Build β} (h : ∀ x, Renames d g (b x) (b' x))
    (xs : List γ) : Renames d (List.map g) (xs.mapM b) (xs.mapM b') := by
  induction xs with
  | nil => exact .pure rfl
  | cons x xs ih =>
    rw [List.mapM_cons, List.mapM_cons]
    refine (h x).bind ?_
    rintro y _ rfl
    refine ih.bind ?_
    rintro ys _ rfl
    exact .pure rfl

theorem find {view : Object → Option α} {view' : Object → Option β}
    (hview : ∀ o, view' (o.mapVars f) = (view o).map g) (objects : Objects) (name : String) :
    Renames d g (find view objects name) (find view' (objects.mapVars f) name) := by
  have hlookup : ((objects.mapVars f).lookup name).bind view' =
      ((objects.lookup name).bind view).map g := by
    rw [Objects.lookup_mapVars]
    cases objects.lookup name with
    | none => rfl
    | some o => exact hview o
  unfold Build.find
  rw [hlookup]
  cases (objects.lookup name).bind view with
  | none => exact .throw _
  | some a => exact .pure rfl

end Renames

theorem renames_coverage (hf : Shifts f d) (names : List String) :
    Renames d (Coverage.mapVar f) (coverage names) (coverage names) := by
  intro supply
  show Agree _ ((Coverage.allocate names supply).1.mapError SessionError.query)
      ((Coverage.allocate names (supply.shift d)).1.mapError SessionError.query) ∧
    (Coverage.allocate names (supply.shift d)).2 = (Coverage.allocate names supply).2.shift d
  rw [hf.allocate]
  refine ⟨?_, rfl⟩
  cases (Coverage.allocate names supply).1 with
  | ok c => exact .ok rfl
  | error e => exact .error _

theorem renames_expression (f : String → String) (v : Value) :
    Renames d (Expr.mapVars f) (expression v) (expression (v.mapVars f)) := by
  cases v with
  | expr e => exact .pure rfl
  | _ => exact .throw _

/-- A node of renamed parts is the node of the parts, renamed. -/
theorem renames_node {result result' : Except QueryError Expr}
    (h : result' = Expr.mapVars f <$> result) :
    Renames d (Value.mapVars f) (do let e ← ofQuery result; Pure.pure (Value.expr e))
      (do let e ← ofQuery result'; Pure.pure (Value.expr e)) := by
  refine (Renames.ofQuery h).bind ?_
  rintro e _ rfl
  exact .pure rfl

end Build

open Build (Matches Renames)

/-- Axis subsets have no variables. -/
theorem AxisRecipe.renames_build (f : String → String) (objects : Objects) (r : AxisRecipe) :
    Renames d id (r.build objects) (r.build (objects.mapVars f)) := by
  cases r with
  | point name b => exact Renames.ofQuery (id_map _).symm
  | interval name low high => exact Renames.ofQuery (id_map _).symm
  | text t => exact Renames.ofQuery (id_map _).symm
  | object name => exact Renames.find (Object.axis?_mapVars f) objects name

/-- The induction is on the recipe: its parts are renamed, and no node looks at their variables. -/
theorem Recipe.renames_build (hf : Shifts f d) (objects : Objects) (r : Recipe) :
    Renames d (Value.mapVars f) (r.build objects) (r.build (objects.mapVars f)) := by
  induction r with
  | number n => exact .pure rfl
  | text s => exact .pure rfl
  | bool b => exact .pure rfl
  | date year month day =>
    refine (Renames.ofQuery (id_map _).symm).bind ?_
    rintro d _ rfl
    exact .pure rfl
  | color red green blue =>
    refine (Renames.ofQuery (id_map _).symm).bind ?_
    rintro c _ rfl
    exact .pure rfl
  | object name => exact Renames.find (Object.value?_mapVars f) objects name
  | coverage names subset =>
    cases subset with
    | none =>
      refine (Build.renames_coverage hf names).bind ?_
      rintro c _ rfl
      exact .pure rfl
    | some axes =>
      refine (Build.renames_coverage hf names).bind ?_
      rintro c _ rfl
      refine (Renames.mapM (AxisRecipe.renames_build f objects) axes).bind ?_
      rintro axes _ rfl
      rw [List.map_id]
      refine (Renames.ofQuery (c.setSubset_mapVar f axes)).bind ?_
      rintro c _ rfl
      exact .pure rfl
  | arithmetic left op right ihl ihr =>
    refine ihl.bind ?_
    rintro v _ rfl
    refine ihr.bind ?_
    rintro w _ rfl
    refine (Build.renames_expression f v).bind ?_
    rintro e _ rfl
    exact Build.renames_node (Expr.arithmeticOf_mapVars f e op w)
  | comparison left op right ihl ihr =>
    refine ihl.bind ?_
    rintro v _ rfl
    refine ihr.bind ?_
    rintro w _ rfl
    refine (Build.renames_expression f v).bind ?_
    rintro e _ rfl
    exact Build.renames_node (Expr.comparisonOf_mapVars f e op w)
  | aggregate op argument ih =>
    refine ih.bind ?_
    rintro v _ rfl
    exact Build.renames_node (Expr.aggregateOf_mapVars f op v)
  | unary g argument ih =>
    refine ih.bind ?_
    rintro v _ rfl
    exact Build.renames_node (Expr.unaryOf_mapVars f g v)
  | binary g first second iha ihb =>
    refine iha.bind ?_
    rintro v _ rfl
    refine ihb.bind ?_
    rintro w _ rfl
    exact Build.renames_node (Expr.binaryOf_mapVars f g v w)

namespace Creation

/-- The coverage is bound to a variable that does not come from the supply. -/
def OverridesVariable {T : Arguments} : Creation T → Prop
  | coverageOver _ _ => True
  | _ => False

def mapVars (f : String → String) : Creation .built → Creation .built
  | coverage names => coverage names
  | coverageOver names var => coverageOver names (f var)
  | value v => value (v.mapVars f)
  | axis a => axis a
  | case condition result => case (condition.mapVars f) (result.mapVars f)
  | switch cases otherwise => switch (cases.map (Case.mapVars f)) (otherwise.mapVars f)
  | query coverages => query (coverages.map (Coverage.mapVar f))
  | queryOver c => queryOver (c.mapVar f)
  | copy o => copy (o.mapVars f)

theorem renames_resolve (hf : Shifts f d) (objects : Objects) {c : Creation .written}
    (hc : ¬c.OverridesVariable) :
    Renames d (mapVars f) (c.resolve objects) (c.resolve (objects.mapVars f)) := by
  cases c with
  | coverage names => exact .pure rfl
  | coverageOver names var => exact absurd trivial hc
  | value v =>
    refine (v.renames_build hf objects).bind ?_
    rintro v _ rfl
    exact .pure rfl
  | axis a =>
    refine (a.renames_build f objects).bind ?_
    rintro a _ rfl
    exact .pure rfl
  | case condition result =>
    refine (condition.renames_build hf objects).bind ?_
    rintro v _ rfl
    refine (result.renames_build hf objects).bind ?_
    rintro w _ rfl
    exact .pure rfl
  | switch cases otherwise =>
    refine (Renames.mapM (Renames.find (Object.case?_mapVars f) objects) cases).bind ?_
    rintro cases _ rfl
    refine (otherwise.renames_build hf objects).bind ?_
    rintro v _ rfl
    exact .pure rfl
  | query coverages =>
    refine (Renames.mapM (Renames.find (Object.coverage?_mapVars f) objects) coverages).bind ?_
    rintro coverages _ rfl
    exact .pure rfl
  | queryOver c =>
    refine (Renames.find (Object.coverage?_mapVars f) objects c).bind ?_
    rintro c _ rfl
    exact .pure rfl
  | copy source =>
    refine (Renames.find (g := Object.mapVars f) (fun _ => rfl) objects source).bind ?_
    rintro o _ rfl
    exact .pure rfl

theorem perform_mapVars (hf : Shifts f d) (c : Creation .built) (supply : VariableSupply) :
    (c.mapVars f).perform (supply.shift d) =
      (Object.mapVars f <$> (c.perform supply).1, (c.perform supply).2.shift d) := by
  cases c with
  | coverage names =>
    simp only [mapVars, perform, hf.allocate]
    cases (Coverage.allocate names supply).1 <;> rfl
  | coverageOver names var =>
    simp only [mapVars, perform, Coverage.ofNames_map]
    cases Coverage.ofNames names var <;> rfl
  | case condition result =>
    simp only [mapVars, perform, Case.ofValues_mapVars]
    cases Case.ofValues condition result <;> rfl
  | switch cases otherwise =>
    simp only [mapVars, perform, Switch.ofCases_mapVars]
    cases Switch.ofCases cases otherwise <;> rfl
  | query coverages =>
    simp only [mapVars, perform, Query.ofCoverages_map]
    cases Query.ofCoverages coverages <;> rfl
  | _ => rfl

end Creation

namespace Edit

/-- The variable is set to one that does not come from the supply. -/
def OverridesVariable {T : Arguments} : Edit T → Prop
  | setVariable _ => True
  | _ => False

def mapVars (f : String → String) : Edit .built → Edit .built
  | setVariable var => setVariable (f var)
  | setNames names => setNames names
  | setSubset axes => setSubset axes
  | clearSubset => clearSubset
  | rename name => rename name
  | setCondition v => setCondition (v.mapVars f)
  | setResult v => setResult (v.mapVars f)
  | setCases cases => setCases (cases.map (Case.mapVars f))
  | setDefault v => setDefault (v.mapVars f)
  | returnValue v => returnValue (v.mapVars f)
  | returnSwitch s => returnSwitch (s.mapVars f)
  | switchOn cases v => switchOn (cases.map (Case.mapVars f)) (v.mapVars f)
  | construct tuples op => construct (tuples.map (List.map (Value.mapVars f))) op
  | clip tuples => clip (tuples.map (List.map (Value.mapVars f)))
  | unset => unset

theorem renames_resolve (hf : Shifts f d) (objects : Objects) {e : Edit .written}
    (he : ¬e.OverridesVariable) :
    Renames d (mapVars f) (e.resolve objects) (e.resolve (objects.mapVars f)) := by
  have htuples (tuples : List (List Recipe)) :=
    Renames.mapM (Renames.mapM (Recipe.renames_build hf objects)) tuples
  cases e with
  | setVariable var => exact absurd trivial he
  | setSubset axes =>
    refine (Renames.mapM (AxisRecipe.renames_build f objects) axes).bind ?_
    rintro axes _ rfl
    rw [List.map_id]
    exact .pure rfl
  | setCondition v | setResult v | setDefault v | returnValue v =>
    refine (v.renames_build hf objects).bind ?_
    rintro v _ rfl
    exact .pure rfl
  | setCases cases =>
    refine (Renames.mapM (Renames.find (Object.case?_mapVars f) objects) cases).bind ?_
    rintro cases _ rfl
    exact .pure rfl
  | returnSwitch s =>
    refine (Renames.find (Object.switch?_mapVars f) objects s).bind ?_
    rintro s _ rfl
    exact .pure rfl
  | switchOn cases v =>
    refine (Renames.mapM (Renames.find (Object.case?_mapVars f) objects) cases).bind ?_
    rintro cases _ rfl
    refine (v.renames_build hf objects).bind ?_
    rintro v _ rfl
    exact .pure rfl
  | construct tuples op =>
    refine (htuples tuples).bind ?_
    rintro tuples _ rfl
    exact .pure rfl
  | clip tuples =>
    refine (htuples tuples).bind ?_
    rintro tuples _ rfl
    exact .pure rfl
  | setNames names | clearSubset | rename name | unset => exact .pure rfl

theorem ofQuery_map {α : Type} {g : α → α} {k : α → Object} {result result' : Except QueryError α}
    (hresult : result' = g <$> result) (hk : ∀ a, k (g a) = (k a).mapVars f) :
    perform.ofQuery (k <$> result') = Object.mapVars f <$> perform.ofQuery (k <$> result) := by
  subst hresult
  cases result with
  | ok a => exact congrArg Except.ok (hk a)
  | error e => rfl

theorem perform_mapVars (f : String → String) (e : Edit .built) (o : Object) :
    (e.mapVars f).perform (o.mapVars f) = Object.mapVars f <$> e.perform o := by
  cases e with
  | setNames names =>
    cases o with
    | coverage c => exact ofQuery_map (c.setNames_mapVar f names) fun _ => rfl
    | _ => rfl
  | setSubset axes =>
    cases o with
    | coverage c => exact ofQuery_map (c.setSubset_mapVar f axes) fun _ => rfl
    | _ => rfl
  | rename name =>
    cases o with
    | axis a => exact ofQuery_map (id_map _).symm fun _ => rfl
    | _ => rfl
  | setCondition v =>
    cases o with
    | case c => exact ofQuery_map (c.setCondition_mapVars f v) fun _ => rfl
    | _ => rfl
  | setResult v =>
    cases o with
    | case c => exact ofQuery_map (c.setResult_mapVars f v) fun _ => rfl
    | _ => rfl
  | setCases cases =>
    cases o with
    | switch s => exact ofQuery_map (s.setCases_mapVars f cases) fun _ => rfl
    | _ => rfl
  | setDefault v =>
    cases o with
    | switch s => exact ofQuery_map (s.setDefault_mapVars f v) fun _ => rfl
    | _ => rfl
  | returnValue v =>
    cases o with
    | query q => exact ofQuery_map (q.returnValue_mapVars f v) fun _ => rfl
    | _ => rfl
  | switchOn cases v =>
    cases o with
    | query q => exact ofQuery_map (q.switchOn_mapVars f cases v) fun _ => rfl
    | _ => rfl
  | construct tuples op =>
    cases o with
    | query q => exact ofQuery_map (q.construct_mapVars f tuples op) fun _ => rfl
    | _ => rfl
  | clip tuples =>
    cases o with
    | query q => exact ofQuery_map (q.clip_mapVars f tuples) fun _ => rfl
    | _ => rfl
  | setVariable var | clearSubset | returnSwitch s | unset => cases o <;> rfl

end Edit

end CoverageQuery
