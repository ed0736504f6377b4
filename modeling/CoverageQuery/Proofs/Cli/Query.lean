import CoverageQuery.Cli.Query
import CoverageQuery.Proofs.Coverage.Bracket
import CoverageQuery.Proofs.Exchange.Orders

/-!
# Queries from the command line

The arguments are checked in one order and the first that is at fault is reported. Arguments without
a fault give a query over one variable whose text has the names, the subsets, the aggregation and
the format that were given and nothing else.
-/

namespace CoverageQuery

open Text

/-- The variables of the coverages, from left to right. -/
def Expr.variables : Expr → List String
  | coverage c => [c.var]
  | arithmetic left _ right => left.variables ++ right.variables
  | comparison left _ right => left.variables ++ right.variables
  | number _ => []
  | aggregate _ argument => argument.variables
  | unary _ argument => argument.variables
  | binary _ first second => first.variables ++ second.variables

namespace Query

theorem exists_renderAs_iff (q : Query) {format : Option String} :
    (∃ text, q.renderAs format = .ok text) ↔
      ∀ name, format = some name → ∃ f ∈ OutputFormat.all, f.name = name := by
  cases format with
  | none => simp [renderAs]
  | some name =>
    simp only [renderAs, bind_eq_ok_iff, OutputFormat.known_eq_ok_iff, pure, Except.pure,
      Except.ok.injEq, Option.some.injEq, forall_eq', ← OutputFormat.exists_ofName?_iff]
    constructor
    · rintro ⟨_, f, hf, -⟩
      exact ⟨f, hf⟩
    · rintro ⟨f, hf⟩
      exact ⟨_, f, hf, rfl⟩

/-- The clause of one coverage has its names between the parentheses. -/
theorem clauseChars_single (c : Coverage) (payload : Payload) :
    clauseChars ⟨c, [], payload⟩ ++ " return ".toList =
      "for ".toList ++ c.var.toList ++ " in (".toList ++ c.namesChars ++ ") return ".toList := by
  simp [clauseChars, coverages, sourceChars]

end Query

namespace Cli.QueryArgs

/-- Nothing is wrong with the arguments. -/
structure Accepted (args : QueryArgs) : Prop where
  names : Coverage.ValidNames args.coverages
  subsets : ∀ text ∈ args.subsets, ∃ a, AxisSubset.parse text = .ok a
  aggregate : ∀ name, args.aggregate = some name →
    AggregateOp.lowered name ∈ AggregateOp.accepted
  format : ∀ name, args.format = some name → ∃ f ∈ OutputFormat.all, f.name = name

/-- What is wrong with the arguments first: the names, then the leftmost subset that cannot be
parsed, then the aggregation, then the format. -/
inductive FirstFault (args : QueryArgs) : ArgumentError → Prop
  | names (h : ¬Coverage.ValidNames args.coverages) : FirstFault args (.query .noCoverage)
  | subset {before after : List String} {text : String} {cause : QueryError}
      (names : Coverage.ValidNames args.coverages) (split : args.subsets = before ++ text :: after)
      (left : ∀ t ∈ before, ∃ a, AxisSubset.parse t = .ok a)
      (h : AxisSubset.parse text = .error cause) : FirstFault args (.subset text cause)
  | aggregate {name : String} (names : Coverage.ValidNames args.coverages)
      (subsets : ∀ text ∈ args.subsets, ∃ a, AxisSubset.parse text = .ok a)
      (given : args.aggregate = some name)
      (h : AggregateOp.lowered name ∉ AggregateOp.accepted) : FirstFault args (.aggregation name)
  | format {name : String} (names : Coverage.ValidNames args.coverages)
      (subsets : ∀ text ∈ args.subsets, ∃ a, AxisSubset.parse text = .ok a)
      (aggregate : ∀ name, args.aggregate = some name →
        AggregateOp.lowered name ∈ AggregateOp.accepted)
      (given : args.format = some name) (h : ∀ f ∈ OutputFormat.all, f.name ≠ name) :
      FirstFault args (.query (.unknownFormat name))

/-- The text in the aggregation of that name, if there is one. -/
def aggregated : Option String → List Char → List Char
  | none, value => value
  | some name, value => (AggregateOp.canonicalName name).toList ++ '(' :: value ++ [')']

/-- The text encoded in the format of that name, if there is one. -/
def encoded : Option String → List Char → List Char
  | none, value => value
  | some name, value =>
    "encode(".toList ++ value ++ ", \"".toList ++ name.toList ++ "\")".toList

/-- The clause that binds the variable to the coverages, and what is returned of the value. -/
def textOf (args : QueryArgs) (var : String) (value : List Char) : List Char :=
  "for ".toList ++ var.toList ++ " in (".toList ++
    joined [',', ' '] (args.coverages.map String.toList) ++ ") return ".toList ++
    encoded args.format (aggregated args.aggregate value)

/-- The coverage with the subsets that were read. -/
def sourceOf (args : QueryArgs) (var : String) (axes : List AxisSubset) : Coverage :=
  ⟨args.coverages, var, if axes = [] then none else some axes⟩

variable {args : QueryArgs} {var : String} {c : Coverage} {e : Expr} {error : ArgumentError}

section Source

variable {texts : List String} {axes : List AxisSubset}

theorem mapM_readSubset_eq_ok_iff :
    texts.mapM readSubset = .ok axes ↔ texts.map AxisSubset.parse = axes.map .ok := by
  rw [mapM_eq_ok_iff]
  induction texts generalizing axes with
  | nil => cases axes <;> simp
  | cons text texts ih =>
    cases axes with
    | nil => simp
    | cons a axes =>
      simp only [List.map_cons, List.cons.injEq, ih, readSubset, mapError_eq_ok_iff]

/-- The names are checked and then the subsets; restricting the coverage adds no fault, as there is
a subset for every text. -/
theorem source_eq (args : QueryArgs) (var : String) :
    args.source var = (do
      let _ ← ofQuery (Coverage.ofNames args.coverages var)
      let axes ← args.subsets.mapM readSubset
      pure (args.sourceOf var axes)) := by
  unfold source Coverage.ofNames
  split
  · cases args.subsets with
    | nil => rfl
    | cons text texts =>
      show (do
        let axes ← (text :: texts).mapM readSubset
        ofQuery (Coverage.setSubset ⟨args.coverages, var, none⟩ axes)) = (do
        let axes ← (text :: texts).mapM readSubset
        pure (args.sourceOf var axes))
      cases hread : (text :: texts).mapM readSubset with
      | error e => rfl
      | ok axes =>
        have hne : axes ≠ [] := by
          rintro rfl
          cases mapM_eq_ok_iff.mp hread
        show ofQuery (Coverage.setSubset ⟨args.coverages, var, none⟩ axes) =
          .ok (args.sourceOf var axes)
        rw [Coverage.setSubset, sourceOf, if_neg hne, if_neg hne]
        rfl
  · rfl

theorem ofNames_eq_ok_iff :
    ofQuery (Coverage.ofNames args.coverages var) = .ok c ↔
      Coverage.ValidNames args.coverages ∧ c = ⟨args.coverages, var, none⟩ := by
  rw [ofQuery, mapError_eq_ok_iff, Coverage.ofNames]
  split <;> simp_all [eq_comm]

theorem ofNames_eq_error_iff :
    ofQuery (Coverage.ofNames args.coverages var) = .error error ↔
      ¬Coverage.ValidNames args.coverages ∧ error = .query .noCoverage := by
  rw [ofQuery, mapError_eq_error_iff, Coverage.ofNames]
  split <;> simp_all [eq_comm]

theorem source_eq_ok_iff :
    args.source var = .ok c ↔ Coverage.ValidNames args.coverages ∧
      ∃ axes : List AxisSubset, args.subsets.map AxisSubset.parse = axes.map .ok ∧
        args.sourceOf var axes = c := by
  simp only [source_eq, bind_eq_ok_iff, ofNames_eq_ok_iff, mapM_readSubset_eq_ok_iff]
  constructor
  · rintro ⟨_, ⟨hnames, -⟩, axes, haxes, ⟨⟩⟩
    exact ⟨hnames, axes, haxes, rfl⟩
  · rintro ⟨hnames, axes, haxes, rfl⟩
    exact ⟨_, ⟨hnames, rfl⟩, axes, haxes, rfl⟩

theorem exists_source_iff :
    (∃ c, args.source var = .ok c) ↔ Coverage.ValidNames args.coverages ∧
      ∀ text ∈ args.subsets, ∃ a, AxisSubset.parse text = .ok a := by
  simp only [source_eq_ok_iff, ← exists_map_ok_iff]
  constructor
  · rintro ⟨c, hnames, axes, haxes, -⟩
    exact ⟨hnames, axes, haxes⟩
  · rintro ⟨hnames, axes, haxes⟩
    exact ⟨_, hnames, axes, haxes, rfl⟩

/-- The subset that is refused is the leftmost one that cannot be parsed. -/
theorem source_eq_error_iff :
    args.source var = .error error ↔
      ¬Coverage.ValidNames args.coverages ∧ error = .query .noCoverage ∨
      Coverage.ValidNames args.coverages ∧ ∃ before text after,
        args.subsets = before ++ text :: after ∧
        (∀ t ∈ before, ∃ a, AxisSubset.parse t = .ok a) ∧
        ∃ cause, AxisSubset.parse text = .error cause ∧ .subset text cause = error := by
  rw [source_eq, bind_eq_error_iff]
  simp only [bind_pure_eq_error_iff, ofNames_eq_error_iff, ofNames_eq_ok_iff, mapM_eq_error_iff,
    readSubset, mapError_eq_ok_iff, mapError_eq_error_iff]
  constructor
  · rintro (h | ⟨_, ⟨hnames, -⟩, h⟩)
    · exact .inl h
    · exact .inr ⟨hnames, h⟩
  · rintro (h | ⟨hnames, h⟩)
    · exact .inl h
    · exact .inr ⟨_, ⟨hnames, rfl⟩, h⟩

end Source

section Result

theorem readAggregate_eq_ok_iff {name : String} {op : AggregateOp} :
    readAggregate name = .ok op ↔ AggregateOp.ofName? name = some op := by
  unfold readAggregate
  cases AggregateOp.ofName? name <;> simp

theorem readAggregate_eq_error_iff {name : String} :
    readAggregate name = .error error ↔
      AggregateOp.ofName? name = none ∧ error = .aggregation name := by
  unfold readAggregate
  cases AggregateOp.ofName? name <;> simp [eq_comm]

theorem aggregateOf_coverage (op : AggregateOp) (c : Coverage) :
    Expr.aggregateOf op (.expr (.coverage c)) = .ok (.aggregate op (.coverage c)) := rfl

theorem result_eq_ok_iff :
    args.result c = .ok e ↔
      args.aggregate = none ∧ .coverage c = e ∨
      ∃ name op, args.aggregate = some name ∧ AggregateOp.ofName? name = some op ∧
        .aggregate op (.coverage c) = e := by
  unfold result
  cases args.aggregate with
  | none => simp [pure, Except.pure]
  | some name =>
    simp only [bind_eq_ok_iff, readAggregate_eq_ok_iff, aggregateOf_coverage, ofQuery,
      mapError_eq_ok_iff, Except.ok.injEq]
    simp

theorem result_eq_error_iff :
    args.result c = .error error ↔
      ∃ name, args.aggregate = some name ∧ AggregateOp.lowered name ∉ AggregateOp.accepted ∧
        error = .aggregation name := by
  unfold result
  cases args.aggregate with
  | none => simp [pure, Except.pure]
  | some name =>
    simp only [bind_eq_error_iff, readAggregate_eq_error_iff, aggregateOf_coverage, ofQuery,
      mapError_eq_error_iff, AggregateOp.ofName?_eq_none_iff]
    simp

theorem exists_result_iff :
    (∃ e, args.result c = .ok e) ↔ ∀ name, args.aggregate = some name →
      AggregateOp.lowered name ∈ AggregateOp.accepted := by
  simp only [result_eq_ok_iff, ← AggregateOp.exists_ofName?_iff]
  cases args.aggregate with
  | none => simp
  | some name => simp

theorem chars_of_result (h : args.result c = .ok e) :
    e.chars = aggregated args.aggregate c.chars := by
  rcases result_eq_ok_iff.mp h with ⟨hnone, rfl⟩ | ⟨name, op, hsome, hop, rfl⟩
  · rw [hnone]
    rfl
  · rw [hsome, aggregated, ← AggregateOp.ofName?_eq_some_iff.mp hop]
    rfl

theorem variables_of_result (h : args.result c = .ok e) : e.variables = [c.var] := by
  rcases result_eq_ok_iff.mp h with ⟨-, rfl⟩ | ⟨name, op, -, -, rfl⟩ <;> rfl

theorem isOperand_of_result (h : args.result c = .ok e) : e.IsOperand := by
  rcases result_eq_ok_iff.mp h with ⟨-, rfl⟩ | ⟨name, op, -, -, rfl⟩ <;> exact trivial

end Result

section Rendering

variable {q : Query} {format : Option String} {text : String}

theorem toList_of_renderAs (h : q.renderAs format = .ok text) :
    text.toList = q.clauseChars ++ " return ".toList ++ encoded format q.payload.chars := by
  cases format with
  | none =>
    cases h
    exact String.toList_ofList
  | some name =>
    rw [Query.renderAs, bind_eq_ok_iff] at h
    obtain ⟨f, hf, htext⟩ := h
    obtain ⟨-, rfl⟩ := OutputFormat.mem_all_of_ofName? (OutputFormat.known_eq_ok_iff.mp hf)
    rw [← Except.ok.inj htext]
    exact String.toList_ofList

/-- What is returned is an operand, so there is nothing to refuse. -/
theorem build_eq (args : QueryArgs) (var : String) :
    args.build var = (do
      let c ← args.source var
      let e ← args.result c
      pure ⟨c, [], .expr e⟩) := by
  unfold build
  cases args.source var with
  | error e => rfl
  | ok c =>
    cases hresult : args.result c with
    | error e => simp only [hresult, bind, Except.bind]
    | ok e =>
      have hoperand : Value.operand (.expr e) = .ok e :=
        Value.operand_eq_ok_iff.mpr ⟨rfl, isOperand_of_result hresult⟩
      simp only [hresult, Query.returnValue, hoperand, bind, Except.bind]
      rfl

theorem build_eq_ok_iff :
    args.build var = .ok q ↔
      ∃ c e, args.source var = .ok c ∧ args.result c = .ok e ∧ ⟨c, [], .expr e⟩ = q := by
  simp only [build_eq, bind_eq_ok_iff, pure, Except.pure, Except.ok.injEq]
  constructor
  · rintro ⟨c, hc, e, he, hq⟩
    exact ⟨c, e, hc, he, hq⟩
  · rintro ⟨c, e, hc, he, hq⟩
    exact ⟨c, hc, e, he, hq⟩

theorem build_eq_error_iff :
    args.build var = .error error ↔ args.source var = .error error ∨
      ∃ c, args.source var = .ok c ∧ args.result c = .error error := by
  rw [build_eq, bind_eq_error_iff]
  simp only [bind_pure_eq_error_iff]

theorem render_eq_ok_iff :
    args.render var = .ok text ↔
      ∃ q, args.build var = .ok q ∧ q.renderAs args.format = .ok text := by
  simp only [render, bind_eq_ok_iff, ofQuery, mapError_eq_ok_iff]

theorem render_eq_error_iff :
    args.render var = .error error ↔ args.build var = .error error ∨
      ∃ q, args.build var = .ok q ∧ ∃ name, args.format = some name ∧
        (∀ f ∈ OutputFormat.all, f.name ≠ name) ∧ error = .query (.unknownFormat name) := by
  simp only [render, bind_eq_error_iff, ofQuery, mapError_eq_error_iff,
    Query.renderAs_eq_error_iff]
  refine or_congr_right (exists_congr fun q => and_congr_right fun _ => ?_)
  constructor
  · rintro ⟨_, ⟨name, hname, hnone, rfl⟩, rfl⟩
    exact ⟨name, hname, hnone, rfl⟩
  · rintro ⟨name, hname, hnone, rfl⟩
    exact ⟨_, ⟨name, hname, hnone, rfl⟩, rfl⟩

theorem exists_build_iff :
    (∃ q, args.build var = .ok q) ↔
      (Coverage.ValidNames args.coverages ∧
        ∀ text ∈ args.subsets, ∃ a, AxisSubset.parse text = .ok a) ∧
      ∀ name, args.aggregate = some name →
        AggregateOp.lowered name ∈ AggregateOp.accepted := by
  simp only [build_eq_ok_iff]
  constructor
  · rintro ⟨_, c, e, hc, he, -⟩
    exact ⟨exists_source_iff.mp ⟨c, hc⟩, exists_result_iff.mp ⟨e, he⟩⟩
  · rintro ⟨hsource, hresult⟩
    obtain ⟨c, hc⟩ := exists_source_iff.mpr hsource
    obtain ⟨e, he⟩ := exists_result_iff.mpr hresult
    exact ⟨_, c, e, hc, he, rfl⟩

theorem exists_render_iff : (∃ text, args.render var = .ok text) ↔ args.Accepted := by
  simp only [render_eq_ok_iff]
  constructor
  · rintro ⟨text, q, hbuild, hrender⟩
    obtain ⟨⟨hnames, hsubsets⟩, haggregate⟩ := exists_build_iff.mp ⟨q, hbuild⟩
    exact ⟨hnames, hsubsets, haggregate, q.exists_renderAs_iff.mp ⟨text, hrender⟩⟩
  · rintro ⟨hnames, hsubsets, haggregate, hformat⟩
    obtain ⟨q, hbuild⟩ := exists_build_iff.mpr ⟨⟨hnames, hsubsets⟩, haggregate⟩
    obtain ⟨text, hrender⟩ := q.exists_renderAs_iff.mpr hformat
    exact ⟨text, q, hbuild, hrender⟩

/-- Each check is reached only if the ones before it pass. -/
theorem render_eq_error_iff_firstFault :
    args.render var = .error error ↔ args.FirstFault error := by
  rw [render_eq_error_iff, build_eq_error_iff, source_eq_error_iff]
  simp only [result_eq_error_iff]
  constructor
  · rintro (((⟨hnames, rfl⟩ | ⟨hnames, before, text, after, hsplit, hleft, cause, hcause, rfl⟩) |
      ⟨c, hc, name, hgiven, hname, rfl⟩) | ⟨q, hq, name, hgiven, hname, rfl⟩)
    · exact .names hnames
    · exact .subset hnames hsplit hleft hcause
    · obtain ⟨hnames, hsubsets⟩ := exists_source_iff.mp ⟨c, hc⟩
      exact .aggregate hnames hsubsets hgiven hname
    · obtain ⟨⟨hnames, hsubsets⟩, haggregate⟩ := exists_build_iff.mp ⟨q, hq⟩
      exact .format hnames hsubsets haggregate hgiven hname
  · intro h
    cases h with
    | names hnames => exact .inl (.inl (.inl ⟨hnames, rfl⟩))
    | subset hnames hsplit hleft hcause =>
      exact .inl (.inl (.inr ⟨hnames, _, _, _, hsplit, hleft, _, hcause, rfl⟩))
    | aggregate hnames hsubsets hgiven hname =>
      obtain ⟨c, hc⟩ := exists_source_iff.mpr ⟨hnames, hsubsets⟩
      exact .inl (.inr ⟨c, hc, _, hgiven, hname, rfl⟩)
    | format hnames hsubsets haggregate hgiven hname =>
      obtain ⟨q, hq⟩ := exists_build_iff.mpr ⟨⟨hnames, hsubsets⟩, haggregate⟩
      exact .inr ⟨q, hq, _, hgiven, hname, rfl⟩

theorem toList_of_query {axes : List AxisSubset} (he : args.result (args.sourceOf var axes) = .ok e)
    (h : Query.renderAs ⟨args.sourceOf var axes, [], .expr e⟩ args.format = .ok text) :
    text.toList = args.textOf var
      (var.toList ++ Coverage.subsetChars (args.sourceOf var axes).subset) := by
  have hvalue : (Payload.expr e).chars = aggregated args.aggregate
      (var.toList ++ Coverage.subsetChars (args.sourceOf var axes).subset) := chars_of_result he
  rw [toList_of_renderAs h, Query.clauseChars_single, hvalue]
  rfl

/-- The bracket holds what the subsets were given as. -/
theorem bracket_of_sourceOf {axes : List AxisSubset}
    (h : args.subsets.map AxisSubset.parse = axes.map .ok) :
    (Coverage.subsetChars (args.sourceOf var axes).subset = [] ↔ args.subsets = []) ∧
    (args.subsets ≠ [] → ∃ inside,
      Coverage.subsetChars (args.sourceOf var axes).subset = '[' :: inside ++ [']'] ∧
      (listed inside).map (fun item => AxisSubset.parse (String.ofList item)) =
        args.subsets.map AxisSubset.parse) := by
  have hempty : args.subsets = [] ↔ axes = [] := by
    rw [← List.map_eq_nil_iff, h, List.map_eq_nil_iff]
  by_cases haxes : axes = []
  · have hsubsets := hempty.mpr haxes
    have hchars : Coverage.subsetChars (args.sourceOf var axes).subset = [] := by
      rw [sourceOf, if_pos haxes]
      rfl
    exact ⟨iff_of_true hchars hsubsets, fun hne => absurd hsubsets hne⟩
  · have hsubsets := mt hempty.mp haxes
    have hchars : Coverage.subsetChars (args.sourceOf var axes).subset =
        '[' :: joined [',', ' '] (axes.map AxisSubset.chars) ++ [']'] := by
      rw [sourceOf, if_neg haxes]
      rfl
    refine ⟨iff_of_false (hchars ▸ List.cons_ne_nil _ _) hsubsets, fun _ => ?_⟩
    exact ⟨_, hchars, AxisSubset.map_parse_listed h haxes⟩

end Rendering

/-- A text is rendered exactly if nothing is wrong with the arguments, and otherwise what is wrong
first is reported. The text has one variable, which it binds, and the subsets between its brackets
are the ones that were given. -/
theorem render_complete (args : QueryArgs) (var : String) :
    ((∃ text, args.render var = .ok text) ↔ args.Accepted) ∧
    (∀ error, args.render var = .error error ↔ args.FirstFault error) ∧
    ∀ text, args.render var = .ok text →
      (∃ bracket, text.toList = args.textOf var (var.toList ++ bracket) ∧
        (bracket = [] ↔ args.subsets = []) ∧
        (args.subsets ≠ [] → ∃ inside, bracket = '[' :: inside ++ [']'] ∧
          (listed inside).map (fun item => AxisSubset.parse (String.ofList item)) =
            args.subsets.map AxisSubset.parse)) ∧
      ∃ q e, args.build var = .ok q ∧ q.renderAs args.format = .ok text ∧
        q.coverages.map Coverage.var = [var] ∧ q.payload = .expr e ∧ e.variables = [var] := by
  refine ⟨exists_render_iff, fun error => render_eq_error_iff_firstFault, fun text h => ?_⟩
  obtain ⟨q, hbuild, hrender⟩ := render_eq_ok_iff.mp h
  obtain ⟨c, e, hc, he, rfl⟩ := build_eq_ok_iff.mp hbuild
  obtain ⟨-, axes, haxes, rfl⟩ := source_eq_ok_iff.mp hc
  refine ⟨⟨_, toList_of_query he hrender, bracket_of_sourceOf haxes⟩, ?_⟩
  exact ⟨_, e, hbuild, hrender, rfl, rfl, variables_of_result he⟩

/-- Subsets with white space around them are given in brackets, and of two that cannot be read the
left one is reported. -/
theorem render_complete_subsets :
    (∃ text inside,
      render ⟨["a", "b"], [" x(1)", "t( \"2014\" )"], some "Average", some "png"⟩ "c" = .ok text ∧
      text.toList =
        textOf ⟨["a", "b"], [" x(1)", "t( \"2014\" )"], some "Average", some "png"⟩ "c"
          ('c' :: '[' :: inside ++ [']'])) ∧
    ∃ cause, render ⟨["a"], ["x(1)", "y", "z"], some "median", none⟩ "c" =
      .error (.subset "y" cause) := by
  constructor
  · have haccepted :
        Accepted ⟨["a", "b"], [" x(1)", "t( \"2014\" )"], some "Average", some "png"⟩ := by
      refine ⟨by decide, ?_, ?_, ?_⟩
      · simp only [List.forall_mem_cons]
        exact ⟨⟨_, rfl⟩, ⟨_, rfl⟩, nofun⟩
      · rintro _ ⟨⟩
        decide
      · rintro _ ⟨⟩
        exact ⟨.png, by decide, rfl⟩
    obtain ⟨text, htext⟩ := (render_complete _ "c").1.mpr haccepted
    obtain ⟨⟨_, hchars, -, hbracket⟩, -⟩ := (render_complete _ "c").2.2 text htext
    obtain ⟨inside, rfl, -⟩ := hbracket (List.cons_ne_nil _ _)
    exact ⟨text, inside, htext, hchars⟩
  · have hleft : ∀ t ∈ ["x(1)"], ∃ a, AxisSubset.parse t = .ok a := by
      rw [List.forall_mem_singleton]
      exact ⟨_, rfl⟩
    exact ⟨_, ((render_complete _ "c").2.1 _).mpr (.subset (by decide) rfl hleft rfl)⟩

end Cli.QueryArgs

end CoverageQuery
