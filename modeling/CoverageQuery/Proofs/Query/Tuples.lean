import CoverageQuery.Proofs.Expr.WellFormed
import CoverageQuery.Proofs.Query.Payload

/-!
# Tuples of grids and polygons

A grid takes two pairs of finite numbers, a polygon any number of them, and both keep the numbers as
they stand. Otherwise what is reported is the first tuple that is no such pair, and in it the first
thing that is wrong.
-/

namespace CoverageQuery

/-- Why a value cannot be an element of a tuple. -/
inductive Value.Misfit : Value → TupleFault → Prop
  | kind {v : Value} (h : ∀ n, v ≠ .expr (.number n)) : Misfit v (.kind v.kind)
  | nonFinite {n : Number} (h : ¬n.IsFinite) : Misfit (.expr (.number n)) .nonFinite

namespace Pair

/-- The two numbers as they are given. -/
def tuple (p : Pair) : List Value := [.expr (.number p.x), .expr (.number p.y)]

/-- What is wrong with a tuple is its length, or else the first of its elements that does not
fit. -/
inductive Malformed : List Value → TupleFault → Prop
  | length {tuple : List Value} (h : tuple.length ≠ 2) : Malformed tuple (.length tuple.length)
  | first {x y : Value} {fault : TupleFault} (h : x.Misfit fault) : Malformed [x, y] fault
  | second {n : Number} {y : Value} {fault : TupleFault} (hn : n.IsFinite) (h : y.Misfit fault) :
    Malformed [.expr (.number n), y] fault

/-- The tuple at this index has this fault, and those before it are pairs of finite numbers. -/
structure FirstMalformed (tuples : List (List Value)) (i : Nat) (fault : TupleFault) : Prop where
  before : ∀ j < i, ∃ p : Pair, p.Legible ∧ tuples[j]? = some p.tuple
  here : ∃ tuple, tuples[i]? = some tuple ∧ Malformed tuple fault

variable {index i : Nat} {v : Value} {n : Number} {tuple : List Value} {tuples : List (List Value)}
  {p : Pair} {fault : TupleFault} {error : QueryError}

theorem element_eq_ok_iff : element index v = .ok n ↔ v = .expr (.number n) ∧ n.IsFinite := by
  unfold element
  cases v with
  | expr e =>
    cases e with
    | number m =>
      by_cases hm : m.IsFinite
      · simp only [Value.number?, if_pos hm, Except.ok.injEq, Value.expr.injEq, Expr.number.injEq]
        constructor
        · rintro rfl
          exact ⟨rfl, hm⟩
        · exact And.left
      · simp only [Value.number?, if_neg hm, reduceCtorEq, Value.expr.injEq, Expr.number.injEq,
          false_iff]
        rintro ⟨rfl, hn⟩
        exact hm hn
    | _ => simp [Value.number?]
  | _ => simp [Value.number?]

theorem element_eq_error_iff :
    element index v = .error error ↔ ∃ fault, v.Misfit fault ∧ error = .element index fault := by
  by_cases hnumber : ∃ n, v = .expr (.number n)
  · obtain ⟨n, rfl⟩ := hnumber
    simp only [element, Value.number?]
    constructor
    · intro h
      split at h
      · cases h
      · next hn =>
        cases h
        exact ⟨.nonFinite, .nonFinite hn, rfl⟩
    · rintro ⟨fault, hfault, rfl⟩
      cases hfault with
      | kind h => exact absurd rfl (h n)
      | nonFinite hn => rw [if_neg hn]
  · have hnone : v.number? = none := by
      unfold Value.number?
      split
      · next n => exact absurd ⟨n, rfl⟩ hnumber
      · rfl
    simp only [element, hnone, Except.error.injEq]
    constructor
    · rintro rfl
      exact ⟨.kind v.kind, .kind fun n hv => hnumber ⟨n, hv⟩, rfl⟩
    · rintro ⟨fault, hfault, rfl⟩
      cases hfault with
      | kind => rfl
      | nonFinite => exact absurd ⟨_, rfl⟩ hnumber

/-- A number fits exactly if the gate lets it through. -/
theorem element_eq_ok_iff_validate :
    element index v = .ok n ↔ v.number? = some n ∧ v.validate = .ok () := by
  rw [element_eq_ok_iff, Value.validate_eq_ok_iff]
  constructor
  · rintro ⟨rfl, hn⟩
    exact ⟨rfl, .number n, rfl, hn⟩
  · rintro ⟨hnumber, e, rfl, he⟩
    cases e with
    | number m =>
      cases hnumber
      exact ⟨rfl, he⟩
    | _ => cases hnumber

theorem ofTuple_eq_ok_iff : ofTuple index tuple = .ok p ↔ p.Legible ∧ tuple = p.tuple := by
  constructor
  · intro h
    unfold ofTuple at h
    split at h
    · obtain ⟨x, hx, hrest⟩ := bind_eq_ok_iff.mp h
      obtain ⟨y, hy, ⟨⟩⟩ := bind_eq_ok_iff.mp hrest
      obtain ⟨rfl, hxfinite⟩ := element_eq_ok_iff.mp hx
      obtain ⟨rfl, hyfinite⟩ := element_eq_ok_iff.mp hy
      exact ⟨⟨hxfinite, hyfinite⟩, rfl⟩
    · cases h
  · rintro ⟨hp, rfl⟩
    refine bind_eq_ok_iff.mpr ⟨p.x, element_eq_ok_iff.mpr ⟨rfl, hp.x⟩, ?_⟩
    exact bind_eq_ok_iff.mpr ⟨p.y, element_eq_ok_iff.mpr ⟨rfl, hp.y⟩, rfl⟩

theorem ofTuple_eq_error_iff :
    ofTuple index tuple = .error error ↔
      ∃ fault, Malformed tuple fault ∧ error = .element index fault := by
  constructor
  · intro h
    unfold ofTuple at h
    split at h
    · next x y =>
      rcases bind_eq_error_iff.mp h with hx | ⟨n, hn, hrest⟩
      · obtain ⟨fault, hfault, rfl⟩ := element_eq_error_iff.mp hx
        exact ⟨fault, .first hfault, rfl⟩
      · obtain ⟨rfl, hfinite⟩ := element_eq_ok_iff.mp hn
        rcases bind_eq_error_iff.mp hrest with hy | ⟨_, -, ⟨⟩⟩
        obtain ⟨fault, hfault, rfl⟩ := element_eq_error_iff.mp hy
        exact ⟨fault, .second hfinite hfault, rfl⟩
    · next hne =>
      cases h
      refine ⟨.length tuple.length, .length ?_, rfl⟩
      intro hlength
      obtain ⟨x, y, rfl⟩ := List.length_eq_two.mp hlength
      exact hne x y rfl
  · rintro ⟨fault, hfault, rfl⟩
    cases hfault with
    | length hlength =>
      unfold ofTuple
      split
      · exact absurd rfl hlength
      · rfl
    | first h => exact bind_eq_error_iff.mpr (.inl (element_eq_error_iff.mpr ⟨fault, h, rfl⟩))
    | second hn h =>
      refine bind_eq_error_iff.mpr (.inr ⟨_, element_eq_ok_iff.mpr ⟨rfl, hn⟩, ?_⟩)
      exact bind_eq_error_iff.mpr (.inl (element_eq_error_iff.mpr ⟨fault, h, rfl⟩))

theorem firstMalformed_nil : ¬FirstMalformed [] i fault := by
  rintro ⟨-, tuple, h, -⟩
  cases h

theorem firstMalformed_cons :
    FirstMalformed (tuple :: tuples) i fault ↔
      (i = 0 ∧ Malformed tuple fault) ∨
        ∃ k, i = k + 1 ∧ (∃ p : Pair, p.Legible ∧ tuple = p.tuple) ∧
          FirstMalformed tuples k fault := by
  constructor
  · rintro ⟨before, here⟩
    cases i with
    | zero =>
      obtain ⟨_, ⟨⟩, h⟩ := here
      exact .inl ⟨rfl, h⟩
    | succ k =>
      obtain ⟨p, hp, htuple⟩ := before 0 k.succ_pos
      refine .inr ⟨k, rfl, ⟨p, hp, Option.some.inj htuple⟩, ?_, here⟩
      intro j hj
      exact before (j + 1) (Nat.succ_lt_succ hj)
  · rintro (⟨rfl, h⟩ | ⟨k, rfl, ⟨p, hp, rfl⟩, before, here⟩)
    · exact ⟨fun j hj => absurd hj j.not_lt_zero, tuple, rfl, h⟩
    · refine ⟨?_, here⟩
      intro j hj
      cases j with
      | zero => exact ⟨p, hp, rfl⟩
      | succ j => exact before j (Nat.lt_of_succ_lt_succ hj)

theorem ofTuples_eq_ok_iff {ps : List Pair} :
    ofTuples index tuples = .ok ps ↔ (∀ p ∈ ps, p.Legible) ∧ tuples = ps.map Pair.tuple := by
  induction tuples generalizing index ps with
  | nil =>
    rw [ofTuples, Except.ok.injEq]
    constructor
    · rintro rfl
      exact ⟨nofun, rfl⟩
    · rintro ⟨-, h⟩
      exact (List.map_eq_nil_iff.mp h.symm).symm
  | cons tuple tuples ih =>
    simp only [ofTuples, bind_eq_ok_iff, ofTuple_eq_ok_iff, ih]
    constructor
    · rintro ⟨p, ⟨hp, rfl⟩, ps, ⟨hps, rfl⟩, ⟨⟩⟩
      exact ⟨List.forall_mem_cons.mpr ⟨hp, hps⟩, rfl⟩
    · rintro ⟨hps, h⟩
      cases ps with
      | nil => cases h
      | cons p ps =>
        rw [List.forall_mem_cons] at hps
        cases h
        exact ⟨p, ⟨hps.1, rfl⟩, ps, ⟨hps.2, rfl⟩, rfl⟩

/-- The index of the first tuple is that from which the list is counted. -/
theorem ofTuples_eq_error_iff :
    ofTuples index tuples = .error error ↔
      ∃ i fault, FirstMalformed tuples i fault ∧ error = .element (index + i) fault := by
  induction tuples generalizing index with
  | nil => simp [ofTuples, firstMalformed_nil]
  | cons tuple tuples ih =>
    simp only [ofTuples, bind_eq_error_iff, ofTuple_eq_error_iff, ofTuple_eq_ok_iff, ih,
      firstMalformed_cons]
    constructor
    · rintro (⟨fault, hfault, rfl⟩ | ⟨p, hp, ⟨i, fault, hfault, rfl⟩ | ⟨_, -, ⟨⟩⟩⟩)
      · exact ⟨0, fault, .inl ⟨rfl, hfault⟩, rfl⟩
      · refine ⟨i + 1, fault, .inr ⟨i, rfl, ⟨p, hp⟩, hfault⟩, ?_⟩
        rw [Nat.add_right_comm, Nat.add_assoc]
    · rintro ⟨_, fault, ⟨rfl, hfault⟩ | ⟨i, rfl, ⟨p, hp⟩, hfault⟩, rfl⟩
      · exact .inl ⟨fault, hfault, rfl⟩
      · refine .inr ⟨p, hp, .inl ⟨i, fault, hfault, ?_⟩⟩
        rw [Nat.add_right_comm, Nat.add_assoc]

/-- A pair read by position: nothing comes of a position that the tuple does not have. -/
def ofTupleAt? (index : Nat) (tuple : List Value) : Option (Except QueryError Pair) :=
  if tuple.length ≠ 2 then some (.error (.element index (.length tuple.length)))
  else do
    let x ← tuple[0]?
    let y ← tuple[1]?
    some do
      let x ← element index x
      let y ← element index y
      pure ⟨x, y⟩

/-- No position is read that the tuple does not have. -/
theorem ofTupleAt?_eq (index : Nat) (tuple : List Value) :
    ofTupleAt? index tuple = some (ofTuple index tuple) := by
  by_cases hlength : tuple.length = 2
  · obtain ⟨x, y, rfl⟩ := List.length_eq_two.mp hlength
    rfl
  · rw [ofTupleAt?, if_pos hlength, Option.some_inj]
    exact (ofTuple_eq_error_iff.mpr ⟨_, .length hlength, rfl⟩).symm

end Pair

namespace Grid

variable {tuples : List (List Value)} {op : ComparisonOp} {g : Grid} {error : QueryError}

theorem ofTuples_eq_ok_iff :
    ofTuples tuples op = .ok g ↔
      g.x.Legible ∧ g.y.Legible ∧ tuples = [g.x.tuple, g.y.tuple] ∧ g.op = op := by
  constructor
  · intro h
    unfold ofTuples at h
    split at h
    · obtain ⟨x, hx, hrest⟩ := bind_eq_ok_iff.mp h
      obtain ⟨y, hy, ⟨⟩⟩ := bind_eq_ok_iff.mp hrest
      obtain ⟨hxlegible, rfl⟩ := Pair.ofTuple_eq_ok_iff.mp hx
      obtain ⟨hylegible, rfl⟩ := Pair.ofTuple_eq_ok_iff.mp hy
      exact ⟨hxlegible, hylegible, rfl, rfl⟩
    · cases h
  · obtain ⟨x, y, op'⟩ := g
    rintro ⟨hx, hy, rfl, rfl⟩
    refine bind_eq_ok_iff.mpr ⟨x, Pair.ofTuple_eq_ok_iff.mpr ⟨hx, rfl⟩, ?_⟩
    exact bind_eq_ok_iff.mpr ⟨y, Pair.ofTuple_eq_ok_iff.mpr ⟨hy, rfl⟩, rfl⟩

theorem ofTuples_of_length_ne (h : tuples.length ≠ 2) :
    ofTuples tuples op = .error (.arity 2 tuples.length) := by
  unfold ofTuples
  split
  · exact absurd rfl h
  · rfl

/-- Two tuples are read as the vertices of a polygon would be. -/
theorem ofTuples_eq_error_iff_of_length (h : tuples.length = 2) :
    ofTuples tuples op = .error error ↔ Pair.ofTuples 0 tuples = .error error := by
  obtain ⟨x, y, rfl⟩ := List.length_eq_two.mp h
  simp only [ofTuples, Pair.ofTuples, bind_eq_error_iff, bind_eq_ok_iff]
  simp [pure, Except.pure]

/-- A grid read by position: nothing comes of a position that is not there. -/
def ofTuplesAt? (tuples : List (List Value)) (op : ComparisonOp) :
    Option (Except QueryError Grid) :=
  if tuples.length ≠ 2 then some (.error (.arity 2 tuples.length))
  else do
    let x ← tuples[0]?
    let y ← tuples[1]?
    let x ← Pair.ofTupleAt? 0 x
    let y ← Pair.ofTupleAt? 1 y
    some do
      let x ← x
      let y ← y
      pure ⟨x, y, op⟩

theorem ofTuplesAt?_eq (tuples : List (List Value)) (op : ComparisonOp) :
    ofTuplesAt? tuples op = some (ofTuples tuples op) := by
  by_cases hlength : tuples.length = 2
  · obtain ⟨x, y, rfl⟩ := List.length_eq_two.mp hlength
    simp only [ofTuplesAt?, Pair.ofTupleAt?_eq]
    rfl
  · rw [ofTuplesAt?, if_pos hlength, ofTuples_of_length_ne hlength]

end Grid

namespace Query

variable {q r : Query} {tuples : List (List Value)} {op : ComparisonOp} {error : QueryError}

theorem construct_eq_ok_iff :
    q.construct tuples op = .ok r ↔
      ∃ x y : Pair, x.Legible ∧ y.Legible ∧ tuples = [x.tuple, y.tuple] ∧
        r = { q with payload := .grid ⟨x, y, op⟩ } := by
  rw [construct, bind_eq_ok_iff]
  constructor
  · rintro ⟨⟨x, y, op'⟩, hg, ⟨⟩⟩
    obtain ⟨hx, hy, htuples, rfl⟩ := Grid.ofTuples_eq_ok_iff.mp hg
    exact ⟨x, y, hx, hy, htuples, rfl⟩
  · rintro ⟨x, y, hx, hy, htuples, rfl⟩
    exact ⟨⟨x, y, op⟩, Grid.ofTuples_eq_ok_iff.mpr ⟨hx, hy, htuples, rfl⟩, rfl⟩

theorem construct_eq_error_iff :
    q.construct tuples op = .error error ↔
      (tuples.length ≠ 2 ∧ error = .arity 2 tuples.length) ∨
        tuples.length = 2 ∧ ∃ i fault, Pair.FirstMalformed tuples i fault ∧
          error = .element i fault := by
  have hgrid : q.construct tuples op = .error error ↔ Grid.ofTuples tuples op = .error error := by
    rw [construct, bind_eq_error_iff]
    simp [pure, Except.pure]
  rw [hgrid]
  by_cases hlength : tuples.length = 2
  · rw [Grid.ofTuples_eq_error_iff_of_length hlength, Pair.ofTuples_eq_error_iff]
    simp [hlength]
  · rw [Grid.ofTuples_of_length_ne hlength, Except.error.injEq]
    simp [hlength, eq_comm]

theorem clip_eq_ok_iff :
    q.clip tuples = .ok r ↔
      ∃ vertices : List Pair, (∀ p ∈ vertices, p.Legible) ∧ tuples = vertices.map Pair.tuple ∧
        r = { q with payload := .clip ⟨q.first.var, vertices⟩ } := by
  simp only [clip, Clip.ofTuples, bind_eq_ok_iff, Pair.ofTuples_eq_ok_iff]
  constructor
  · rintro ⟨_, ⟨vertices, ⟨hlegible, htuples⟩, ⟨⟩⟩, ⟨⟩⟩
    exact ⟨vertices, hlegible, htuples, rfl⟩
  · rintro ⟨vertices, hlegible, htuples, rfl⟩
    exact ⟨_, ⟨vertices, ⟨hlegible, htuples⟩, rfl⟩, rfl⟩

theorem clip_eq_error_iff :
    q.clip tuples = .error error ↔
      ∃ i fault, Pair.FirstMalformed tuples i fault ∧ error = .element i fault := by
  simp only [clip, Clip.ofTuples, bind_eq_error_iff, Pair.ofTuples_eq_error_iff, Nat.zero_add]
  simp [pure, Except.pure]

/-- A grid is made of two pairs of finite numbers and a polygon of a list of them, each number in
its place. All else is refused: for a grid a number of tuples other than two, and for both the first
tuple that is no such pair. Nothing is read from a place that is not there. -/
theorem construct_clip_exact (q : Query) (tuples : List (List Value)) (op : ComparisonOp) :
    (∀ r, q.construct tuples op = .ok r ↔
      ∃ x y : Pair, x.Legible ∧ y.Legible ∧ tuples = [x.tuple, y.tuple] ∧
        r = { q with payload := .grid ⟨x, y, op⟩ }) ∧
    (∀ error, q.construct tuples op = .error error ↔
      (tuples.length ≠ 2 ∧ error = .arity 2 tuples.length) ∨
        tuples.length = 2 ∧ ∃ i fault, Pair.FirstMalformed tuples i fault ∧
          error = .element i fault) ∧
    (∀ r, q.clip tuples = .ok r ↔
      ∃ vertices : List Pair, (∀ p ∈ vertices, p.Legible) ∧ tuples = vertices.map Pair.tuple ∧
        r = { q with payload := .clip ⟨q.first.var, vertices⟩ }) ∧
    (∀ error, q.clip tuples = .error error ↔
      ∃ i fault, Pair.FirstMalformed tuples i fault ∧ error = .element i fault) ∧
    (∀ i v n, Pair.element i v = .ok n ↔ v.number? = some n ∧ v.validate = .ok ()) ∧
    (∀ i tuple, Pair.ofTupleAt? i tuple = some (Pair.ofTuple i tuple)) ∧
    Grid.ofTuplesAt? tuples op = some (Grid.ofTuples tuples op) := by
  refine ⟨?construct, ?constructError, ?clip, ?clipError, ?element, ?pairPlaces, ?gridPlaces⟩
  case construct => exact fun r => construct_eq_ok_iff
  case constructError => exact fun error => construct_eq_error_iff
  case clip => exact fun r => clip_eq_ok_iff
  case clipError => exact fun error => clip_eq_error_iff
  case element => exact fun i v n => Pair.element_eq_ok_iff_validate
  case pairPlaces => exact Pair.ofTupleAt?_eq
  case gridPlaces => exact Grid.ofTuplesAt?_eq tuples op

end Query

end CoverageQuery
