import CoverageQuery.Proofs.Session.Build
import CoverageQuery.Proofs.Session.Step

/-!
# Well-formed sessions

Every object that a session can come to hold is well-formed: calls build their arguments from
well-formed objects, and with well-formed arguments they make and leave nothing else.
-/

namespace CoverageQuery

namespace Creation

/-- All arguments are well-formed. -/
def WellFormed : Creation .built → Prop
  | coverage _ | coverageOver _ _ => True
  | value v => v.WellFormed
  | axis a => a.WellFormed
  | case condition result => condition.WellFormed ∧ result.WellFormed
  | switch cases otherwise => (∀ c ∈ cases, c.WellFormed) ∧ otherwise.WellFormed
  | query coverages => ∀ c ∈ coverages, c.WellFormed
  | queryOver c => c.WellFormed
  | copy o => o.WellFormed

theorem wellFormed_of_perform {c : Creation .built} {supply : VariableSupply} {o : Object}
    (hc : c.WellFormed) (h : (c.perform supply).1 = .ok o) : o.WellFormed := by
  cases c with
  | coverage names =>
    obtain ⟨c, hmade, rfl⟩ := map_eq_ok_iff.mp h
    exact Coverage.wellFormed_of_allocate hmade
  | coverageOver names var =>
    obtain ⟨c, hmade, rfl⟩ := map_eq_ok_iff.mp h
    exact Coverage.wellFormed_of_ofNames hmade
  | value v =>
    cases h
    exact hc
  | axis a =>
    cases h
    exact hc
  | case condition result =>
    obtain ⟨c, hmade, rfl⟩ := map_eq_ok_iff.mp h
    exact Case.wellFormed_of_ofValues hc.1 hc.2 hmade
  | switch cases otherwise =>
    obtain ⟨s, hmade, rfl⟩ := map_eq_ok_iff.mp h
    exact Switch.wellFormed_of_ofCases hc.1 hc.2 hmade
  | query coverages =>
    obtain ⟨q, hmade, rfl⟩ := map_eq_ok_iff.mp h
    exact Query.wellFormed_of_ofCoverages hc hmade
  | queryOver c =>
    cases h
    exact Query.wellFormed_ofCoverage hc
  | copy o =>
    cases h
    exact hc

end Creation

namespace Edit

/-- All arguments are well-formed. -/
def WellFormed : Edit .built → Prop
  | setVariable _ | setNames _ | clearSubset | rename _ | construct _ _ | clip _ | unset => True
  | setSubset axes => ∀ a ∈ axes, a.WellFormed
  | setCondition v | setResult v | setDefault v | returnValue v => v.WellFormed
  | setCases cases => ∀ c ∈ cases, c.WellFormed
  | returnSwitch s => s.WellFormed
  | switchOn cases otherwise => (∀ c ∈ cases, c.WellFormed) ∧ otherwise.WellFormed

theorem wellFormed_of_perform {e : Edit .built} {o o' : Object} (he : e.WellFormed)
    (ho : o.WellFormed) (h : e.perform o = .ok o') : o'.WellFormed := by
  unfold perform at h
  split at h
  · next var c =>
    cases h
    exact Coverage.WellFormed.setVariable ho var
  · next names c =>
    obtain ⟨d, hd, rfl⟩ := ofQuery_map_eq_ok_iff.mp h
    exact Coverage.WellFormed.setNames ho hd
  · next axes c =>
    obtain ⟨d, hd, rfl⟩ := ofQuery_map_eq_ok_iff.mp h
    exact Coverage.WellFormed.setSubset ho he hd
  · next c =>
    cases h
    exact Coverage.WellFormed.clearSubset ho
  · next name a =>
    obtain ⟨b, hb, rfl⟩ := ofQuery_map_eq_ok_iff.mp h
    exact AxisSubset.WellFormed.rename ho hb
  · next v c =>
    obtain ⟨d, hd, rfl⟩ := ofQuery_map_eq_ok_iff.mp h
    exact Case.WellFormed.setCondition ho he hd
  · next v c =>
    obtain ⟨d, hd, rfl⟩ := ofQuery_map_eq_ok_iff.mp h
    exact Case.WellFormed.setResult ho he hd
  · next cases s =>
    obtain ⟨t, ht, rfl⟩ := ofQuery_map_eq_ok_iff.mp h
    exact Switch.WellFormed.setCases ho he ht
  · next v s =>
    obtain ⟨t, ht, rfl⟩ := ofQuery_map_eq_ok_iff.mp h
    exact Switch.WellFormed.setDefault ho he ht
  · next v q =>
    obtain ⟨r, hr, rfl⟩ := ofQuery_map_eq_ok_iff.mp h
    exact Query.WellFormed.returnValue ho he hr
  · next s q =>
    cases h
    exact Query.WellFormed.returnSwitch ho he
  · next cases v q =>
    obtain ⟨r, hr, rfl⟩ := ofQuery_map_eq_ok_iff.mp h
    exact Query.WellFormed.switchOn ho he.1 he.2 hr
  · next tuples op q =>
    obtain ⟨r, hr, rfl⟩ := ofQuery_map_eq_ok_iff.mp h
    exact Query.WellFormed.construct ho hr
  · next tuples q =>
    obtain ⟨r, hr, rfl⟩ := ofQuery_map_eq_ok_iff.mp h
    exact Query.WellFormed.clip ho hr
  · next q =>
    cases h
    exact Query.WellFormed.withPayload ho trivial nofun
  · cases h

end Edit

namespace Objects.WellFormed

variable {objects : Objects}

theorem yields_cases (h : objects.WellFormed) (names : List String) :
    Build.Yields (names.mapM (Build.find Object.case? objects)) fun cases =>
      ∀ c ∈ cases, c.WellFormed :=
  .mapM fun name _ => h.yields_find (fun _ _ => Object.WellFormed.case) name

theorem yields_creation (h : objects.WellFormed) (c : Creation .written) :
    (c.resolve objects).Yields Creation.WellFormed := by
  cases c with
  | coverage names => exact .pure trivial
  | coverageOver names var => exact .pure trivial
  | value v => exact (h.yields_value v).bind fun v hv => .pure hv
  | axis a => exact (h.yields_axis a).bind fun a ha => .pure ha
  | case condition result =>
    refine (h.yields_value condition).bind fun v hv => ?_
    exact (h.yields_value result).bind fun w hw => .pure ⟨hv, hw⟩
  | switch cases otherwise =>
    refine (h.yields_cases cases).bind fun cases hcases => ?_
    exact (h.yields_value otherwise).bind fun v hv => .pure ⟨hcases, hv⟩
  | query coverages =>
    refine .bind (.mapM fun name _ => ?_) fun coverages hcoverages => .pure hcoverages
    exact h.yields_find (fun _ _ => Object.WellFormed.coverage) name
  | queryOver c =>
    exact (h.yields_find (fun _ _ => Object.WellFormed.coverage) c).bind fun c hc => .pure hc
  | copy source =>
    have hview : ∀ o o' : Object, o.WellFormed → some o = some o' → o'.WellFormed := by
      rintro o _ ho ⟨⟩
      exact ho
    exact (h.yields_find hview source).bind fun o ho => .pure ho

theorem yields_edit (h : objects.WellFormed) (e : Edit .written) :
    (e.resolve objects).Yields Edit.WellFormed := by
  cases e with
  | setVariable var => exact .pure trivial
  | setNames names => exact .pure trivial
  | setSubset axes =>
    exact .bind (.mapM fun a _ => h.yields_axis a) fun axes haxes => .pure haxes
  | clearSubset => exact .pure trivial
  | rename name => exact .pure trivial
  | setCondition condition => exact (h.yields_value condition).bind fun v hv => .pure hv
  | setResult result => exact (h.yields_value result).bind fun v hv => .pure hv
  | setCases cases => exact (h.yields_cases cases).bind fun cases hcases => .pure hcases
  | setDefault otherwise => exact (h.yields_value otherwise).bind fun v hv => .pure hv
  | returnValue v => exact (h.yields_value v).bind fun v hv => .pure hv
  | returnSwitch s =>
    exact (h.yields_find (fun _ _ => Object.WellFormed.switch) s).bind fun s hs => .pure hs
  | switchOn cases otherwise =>
    refine (h.yields_cases cases).bind fun cases hcases => ?_
    exact (h.yields_value otherwise).bind fun v hv => .pure ⟨hcases, hv⟩
  | construct tuples op => exact .bind_any fun tuples => .pure trivial
  | clip tuples => exact .bind_any fun tuples => .pure trivial
  | unset => exact .pure trivial

end Objects.WellFormed

namespace Session

/-- All objects are well-formed, also the hidden ones. -/
def WellFormed (s : Session) : Prop := s.objects.WellFormed

theorem wellFormed_start (first : UInt64) : (start first).WellFormed :=
  fun _ h => absurd h List.not_mem_nil

namespace WellFormed

variable {s s' : Session}

/-- What is built of the objects of a well-formed session has every property that builders from
well-formed objects give. -/
theorem built {α : Type} {p : α → Prop} {build : Objects → Build α} {a : α} (hs : s.WellFormed)
    (hbuild : ∀ objects : Objects, objects.WellFormed → (build objects).Yields p)
    (h : s.built? build = some (a, s')) : p a ∧ s'.WellFormed := by
  obtain ⟨supply, hrun, rfl⟩ := built?_eq_some h
  exact ⟨hbuild s.objects hs _ _ _ hrun, hs⟩

theorem added {step : Step} {name : String} {o : Object} (hs : s.WellFormed)
    (h : s.added? step = some (name, o)) : o.WellFormed := by
  cases step with
  | nextVariable => cases h
  | inquire i => cases h
  | create target c =>
    obtain ⟨⟨c, s'⟩, hbuilt, hmade⟩ := Option.bind_eq_some_iff.mp h
    obtain ⟨hc, -⟩ := hs.built (fun _ hobjects => hobjects.yields_creation _) hbuilt
    obtain ⟨o, ho, ⟨⟩⟩ := Option.map_eq_some_iff.mp hmade
    exact Creation.wellFormed_of_perform hc (toOption_eq_some_iff.mp ho)
  | edit target e =>
    obtain ⟨⟨e, s'⟩, hbuilt, hchanged⟩ := Option.bind_eq_some_iff.mp h
    obtain ⟨he, hs'⟩ := hs.built (fun _ hobjects => hobjects.yields_edit _) hbuilt
    obtain ⟨o', ho', ⟨⟩⟩ := Option.map_eq_some_iff.mp hchanged
    obtain ⟨o, ho, hperform⟩ := Option.bind_eq_some_iff.mp ho'
    exact Edit.wellFormed_of_perform he (hs'.lookup ho) (toOption_eq_some_iff.mp hperform)

theorem step (hs : s.WellFormed) (step : Step) : (s.step step).2.WellFormed := by
  intro entry hentry
  rw [objects_step, List.mem_append] at hentry
  rcases hentry with hadded | hkept
  · exact hs.added (Option.mem_toList.mp hadded)
  · exact hs entry hkept

theorem run (hs : s.WellFormed) (steps : List Step) : (s.run steps).2.WellFormed := by
  induction steps generalizing s with
  | nil => exact hs
  | cons step steps ih => exact ih (hs.step step)

end WellFormed

/-- Whatever is done in a session, in any order and with any arguments, every object it ends up
with is well-formed. -/
theorem wellFormed_run_start (first : UInt64) (steps : List Step) :
    ((start first).run steps).2.WellFormed :=
  (wellFormed_start first).run steps

end Session

end CoverageQuery
