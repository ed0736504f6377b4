import CoverageQuery.Format
import CoverageQuery.Operator
import CoverageQuery.Text.Every

/-!
# Names and symbols

Every operator, function and format is found under the name it is written with, so no two of one
kind share a name. No function shares its name with an aggregation and no arithmetic operator its
symbol with a comparison. An aggregation is found under its name in any mixture of cases, and one of
them under a longer name too. A format is refused exactly if it is not found.
-/

namespace CoverageQuery

section Lookup

variable {α : Type} {name : α → String} {lookup : String → Option α}

theorem eq_of_found (found : ∀ a, lookup (name a) = some a) {a b : α} (h : name a = name b) :
    a = b := by
  have hfound := found a
  rw [h, found] at hfound
  exact (Option.some.inj hfound).symm

theorem ne_of_not_found (found : ∀ a, lookup (name a) = some a) {text : String}
    (hnone : lookup text = none) (a : α) : name a ≠ text := by
  rintro rfl
  rw [found] at hnone
  cases hnone

end Lookup

theorem ArithmeticOp.ofSymbol?_symbol (op : ArithmeticOp) : ofSymbol? op.symbol = some op := by
  cases op <;> decide

theorem ComparisonOp.ofSymbol?_symbol (op : ComparisonOp) : ofSymbol? op.symbol = some op := by
  cases op <;> decide

theorem ArithmeticOp.symbol_unspaced (op : ArithmeticOp) :
    ∀ c ∈ op.symbol.toList, (c != ' ') = true := by
  cases op <;> decide

theorem ComparisonOp.symbol_unspaced (op : ComparisonOp) :
    ∀ c ∈ op.symbol.toList, (c != ' ') = true := by
  cases op <;> decide

namespace AggregateOp

variable {text : String} {op : AggregateOp}

theorem ofName?_name (op : AggregateOp) : ofName? op.name = some op := by
  cases op <;> decide

/-- A text with its letters in lower case. -/
def lowered (text : String) : String := String.ofList (text.toList.map Char.toLower)

/-- The names that are accepted, in lower case. -/
def accepted : List String := ["min", "max", "avg", "average", "sum", "count"]

/-- The name under which an aggregation is written. -/
def canonicalName (text : String) : String :=
  if lowered text = "average" then "avg" else lowered text

theorem name_mem_accepted (op : AggregateOp) : op.name ∈ accepted := by
  cases op <;> decide

theorem ofName?_eq_some_iff : ofName? text = some op ↔ op.name = canonicalName text := by
  have hlookup : ofName? text =
      if lowered text = "average" then some avg else all.find? (·.name == lowered text) := rfl
  rw [hlookup, canonicalName]
  generalize lowered text = lower
  split
  · cases op <;> decide
  · constructor
    · intro hfound
      have hname := List.find?_some hfound
      exact eq_of_beq hname
    · rintro rfl
      cases op <;> rfl

theorem exists_ofName?_iff : (∃ op, ofName? text = some op) ↔ lowered text ∈ accepted := by
  simp only [ofName?_eq_some_iff, canonicalName]
  constructor
  · rintro ⟨op, hop⟩
    split at hop
    · next haverage => simp [haverage, accepted]
    · exact hop ▸ op.name_mem_accepted
  · intro h
    simp only [accepted, List.mem_cons, List.not_mem_nil, or_false] at h
    rcases h with h | h | h | h | h | h <;> rw [h]
    · exact ⟨min, rfl⟩
    · exact ⟨max, rfl⟩
    · exact ⟨avg, rfl⟩
    · exact ⟨avg, rfl⟩
    · exact ⟨sum, rfl⟩
    · exact ⟨count, rfl⟩

theorem ofName?_eq_none_iff : ofName? text = none ↔ lowered text ∉ accepted := by
  rw [← exists_ofName?_iff, Option.eq_none_iff_forall_ne_some, not_exists]

end AggregateOp

theorem MathFunction.ofName?_name (f : MathFunction) : ofName? f.name = some f := by
  cases f <;> decide

namespace OutputFormat

variable {name : String} {f : OutputFormat}

theorem ofName?_name (f : OutputFormat) : ofName? f.name = some f := by
  cases f <;> decide

theorem mem_all_of_ofName? (h : ofName? name = some f) : f ∈ all ∧ name = f.name := by
  have hname := List.find?_some h
  exact ⟨List.mem_of_find?_eq_some h, (beq_iff_eq.mp hname).symm⟩

theorem exists_ofName?_iff : (∃ f, ofName? name = some f) ↔ ∃ f ∈ all, f.name = name := by
  constructor
  · rintro ⟨f, hf⟩
    obtain ⟨hmem, hname⟩ := mem_all_of_ofName? hf
    exact ⟨f, hmem, hname.symm⟩
  · rintro ⟨f, -, rfl⟩
    exact ⟨f, f.ofName?_name⟩

theorem ofName?_eq_none_iff : ofName? name = none ↔ ∀ f ∈ all, f.name ≠ name := by
  simp [ofName?, List.find?_eq_none]

theorem known_eq_ok_iff : known name = .ok f ↔ ofName? name = some f := by
  unfold known
  cases ofName? name <;> simp

theorem known_eq_error_iff {error : QueryError} :
    known name = .error error ↔ ofName? name = none ∧ error = .unknownFormat name := by
  unfold known
  cases ofName? name <;> simp [eq_comm]

end OutputFormat

theorem ArithmeticOp.symbol_ne_comparison (a : ArithmeticOp) (b : ComparisonOp) :
    a.symbol ≠ b.symbol := by
  refine ne_of_not_found ofSymbol?_symbol ?_ a
  cases b <;> decide

theorem MathFunction.name_ne_aggregate (f : MathFunction) (op : AggregateOp) :
    f.name ≠ op.name := by
  refine ne_of_not_found ofName?_name ?_ f
  cases op <;> decide

end CoverageQuery
