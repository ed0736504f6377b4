import CoverageQuery.Coverage
import Mathlib.Data.List.Nodup
import Mathlib.Data.Nat.ModEq
import Mathlib.Logic.Function.Basic

/-!
# Fresh variables

The variables that a supply hands out are numbered one by one, and the numbers come round again
after 2 ^ 64 of them. This holds of any demands in any order, and also where several parties share
the supply: a party checks names on its own and takes a variable in one indivisible step, so what
the parties do together is a sequence of whole demands.
-/

namespace CoverageQuery

theorem variableName_injective : Function.Injective variableName := by
  intro m n h
  have hdigits : digitChars m.toNat = digitChars n.toNat :=
    (List.cons.inj (List.cons.inj (String.ofList_injective h)).2).2
  have hvalues := congrArg digitsValue hdigits
  rw [digitsValue_digitChars, digitsValue_digitChars] at hvalues
  exact UInt64.toNat_inj.mp hvalues

/-- What a supply is asked for: a variable alone, or one for a coverage. -/
inductive Demand where
  | next
  | coverage (names : List String)

/-- Only the names of a coverage can be refused. -/
def Demand.Allowed : Demand → Prop
  | next => True
  | coverage names => Coverage.ValidNames names

instance : DecidablePred Demand.Allowed
  | .next => isTrue trivial
  | .coverage names => inferInstanceAs (Decidable (Coverage.ValidNames names))

/-- A demand with the variable that it was given. -/
abbrev Served := Demand × Except QueryError String

/-- The variables given, in their order. -/
def granted (served : List Served) : List String := served.filterMap (·.2.toOption)

namespace VariableSupply

variable {s : VariableSupply} {d : Demand}

def serve (s : VariableSupply) : Demand → Except QueryError String × VariableSupply
  | .next => (.ok s.take.1, s.take.2)
  | .coverage names =>
    let (c, supply) := Coverage.allocate names s
    (c.map Coverage.var, supply)

/-- Demands that are made one after the other, and the supply that they leave. -/
def serveAll (s : VariableSupply) : List Demand → List Served × VariableSupply
  | [] => ([], s)
  | d :: demands =>
    let (outcome, s) := s.serve d
    let (served, s) := s.serveAll demands
    ((d, outcome) :: served, s)

theorem serve_of_allowed (h : d.Allowed) : s.serve d = (.ok s.take.1, s.take.2) := by
  cases d with
  | next => rfl
  | coverage names =>
    have hnames : Coverage.ofNames names s.take.1 = .ok ⟨names, s.take.1, none⟩ := if_pos h
    rw [serve, Coverage.allocate, hnames]
    rfl

theorem serve_of_not_allowed (h : ¬d.Allowed) : s.serve d = (.error .noCoverage, s) := by
  cases d with
  | next => exact absurd trivial h
  | coverage names =>
    have hnames : Coverage.ofNames names s.take.1 = .error .noCoverage := if_neg h
    rw [serve, Coverage.allocate, hnames]
    rfl

theorem serveAll_append (s : VariableSupply) (ds es : List Demand) :
    s.serveAll (ds ++ es) = ((s.serveAll ds).1 ++ ((s.serveAll ds).2.serveAll es).1,
      ((s.serveAll ds).2.serveAll es).2) := by
  induction ds generalizing s with
  | nil => rfl
  | cons d ds ih =>
    rw [List.cons_append]
    simp only [serveAll]
    rw [ih]
    rfl

theorem map_fst_serveAll (s : VariableSupply) (demands : List Demand) :
    (s.serveAll demands).1.map Prod.fst = demands := by
  induction demands generalizing s with
  | nil => rfl
  | cons d demands ih => exact congrArg (d :: ·) (ih _)

theorem served_serveAll (s : VariableSupply) (demands : List Demand) :
    ∀ entry ∈ (s.serveAll demands).1, (entry.1.Allowed → ∃ var, entry.2 = .ok var) ∧
      (¬entry.1.Allowed → entry.2 = .error .noCoverage) := by
  induction demands generalizing s with
  | nil => exact nofun
  | cons d demands ih =>
    rw [serveAll, List.forall_mem_cons]
    refine ⟨⟨fun h => ?_, fun h => ?_⟩, ih _⟩
    · exact ⟨s.take.1, congrArg Prod.fst (serve_of_allowed h)⟩
    · exact congrArg Prod.fst (serve_of_not_allowed h)

/-- The demands that are not refused take the numbers from the next one on. -/
theorem serveAll_eq (s : VariableSupply) (demands : List Demand) :
    let count := demands.countP (·.Allowed)
    granted (s.serveAll demands).1 =
        (List.range count).map (fun k => variableName (s.next + .ofNat k)) ∧
      (s.serveAll demands).2.next = s.next + .ofNat count := by
  induction demands generalizing s with
  | nil => exact ⟨rfl, (UInt64.add_zero _).symm⟩
  | cons d demands ih =>
    dsimp only
    rw [serveAll]
    by_cases h : d.Allowed
    · obtain ⟨hgranted, hnext⟩ := ih s.take.2
      have hshift : ∀ k, s.take.2.next + .ofNat k = s.next + .ofNat (k + 1) := by
        intro k
        rw [UInt64.ofNat_add, UInt64.add_comm (.ofNat k), ← UInt64.add_assoc]
        rfl
      rw [serve_of_allowed h, List.countP_cons_of_pos (by simpa using h)]
      refine ⟨?_, hnext.trans (hshift _)⟩
      rw [List.range_succ_eq_map, List.map_cons, List.map_map]
      have hfirst : s.take.1 = variableName (s.next + .ofNat 0) :=
        congrArg variableName (UInt64.add_zero _).symm
      refine List.cons_eq_cons.mpr ⟨hfirst, hgranted.trans ?_⟩
      exact List.map_congr_left fun k _ => congrArg variableName (hshift k)
    · rw [serve_of_not_allowed h, List.countP_cons_of_neg (by simpa using h)]
      exact ih s

end VariableSupply

/-- What holds of demands that were served from a supply whose first number is `first`. -/
structure Fresh (first : UInt64) (served : List Served) (left : VariableSupply) : Prop where
  allowed : ∀ entry ∈ served, entry.1.Allowed → ∃ var, entry.2 = .ok var
  refused : ∀ entry ∈ served, ¬entry.1.Allowed → entry.2 = .error .noCoverage
  getElem : ∀ k < (granted served).length, (granted served)[k]? =
    some (String.ofList ('$' :: 'i' :: digitChars ((first.toNat + k) % 2 ^ 64)))
  left : left.next.toNat = (first.toNat + (granted served).length) % 2 ^ 64
  same_iff : ∀ i < (granted served).length, ∀ j < (granted served).length,
    (granted served)[i]? = (granted served)[j]? ↔ i ≡ j [MOD 2 ^ 64]
  nodup : (granted served).length ≤ 2 ^ 64 → (granted served).Nodup

theorem toNat_add_ofNat (n : UInt64) (k : Nat) :
    (n + .ofNat k).toNat = (n.toNat + k) % 2 ^ 64 := by
  rw [UInt64.toNat_add, UInt64.toNat_ofNat', Nat.add_mod_mod]

theorem VariableSupply.fresh_serveAll (first : UInt64) (demands : List Demand) :
    Fresh first (serveAll ⟨first⟩ demands).1 (serveAll ⟨first⟩ demands).2 := by
  obtain ⟨hgranted, hnext⟩ := serveAll_eq ⟨first⟩ demands
  generalize demands.countP (·.Allowed) = count at hgranted hnext
  have hlength : (granted (serveAll ⟨first⟩ demands).1).length = count := by
    rw [hgranted, List.length_map, List.length_range]
  have hget : ∀ k < count, (granted (serveAll ⟨first⟩ demands).1)[k]? =
      some (variableName (first + .ofNat k)) := by
    intro k hk
    rw [hgranted, List.getElem?_map, List.getElem?_range hk, Option.map_some]
  have hsame : ∀ i < count, ∀ j < count, (granted (serveAll ⟨first⟩ demands).1)[i]? =
      (granted (serveAll ⟨first⟩ demands).1)[j]? ↔ i ≡ j [MOD 2 ^ 64] := by
    intro i hi j hj
    rw [hget i hi, hget j hj, Option.some_inj, variableName_injective.eq_iff,
      ← UInt64.toNat_inj, toNat_add_ofNat, toNat_add_ofNat]
    exact ⟨Nat.ModEq.add_left_cancel' _, Nat.ModEq.add_left _⟩
  constructor
  · exact fun entry hentry => (served_serveAll _ _ entry hentry).1
  · exact fun entry hentry => (served_serveAll _ _ entry hentry).2
  · intro k hk
    rw [hget k (hlength ▸ hk), variableName, toNat_add_ofNat]
  · rw [hnext, hlength, toNat_add_ofNat]
  · rw [hlength]
    exact hsame
  · intro hle
    rw [List.nodup_iff_getElem?_ne_getElem?]
    intro i j hij hj heq
    rw [hlength] at hle hj
    have hmod := (hsame i (hij.trans hj) j hj).mp heq
    have hi := hij.trans (hj.trans_le hle)
    exact hij.ne (hmod.eq_of_lt_of_lt hi (hj.trans_le hle))

/-- Parties that share a supply. Each of them has demands that it still has to make, and it may
hold one whose names it has checked and for which it now needs a variable. What was served is told
apart by the party that asked for it. -/
structure Sharing (P : Type) where
  supply : VariableSupply
  todo : P → List Demand
  held : P → Option Demand
  log : List (P × Served)

namespace Sharing

variable {P : Type} {s : Sharing P} {first : UInt64}

def start (first : UInt64) (programs : P → List Demand) : Sharing P :=
  ⟨⟨first⟩, programs, fun _ => none, []⟩

/-- What all parties were served, in the order in which the supply was used. -/
def served (s : Sharing P) : List Served := s.log.map Prod.snd

/-- The next step of a party: it takes a variable for the demand that it holds, and if it holds
none it looks at its next demand, for which it needs no supply. -/
def turn [DecidableEq P] (s : Sharing P) (p : P) : Sharing P :=
  match s.held p, s.todo p with
  | some d, _ =>
    { s with
      supply := s.supply.take.2
      held := Function.update s.held p none
      log := s.log ++ [(p, d, .ok s.supply.take.1)] }
  | none, [] => s
  | none, d :: demands =>
    if d.Allowed then
      { s with
        todo := Function.update s.todo p demands
        held := Function.update s.held p (some d) }
    else
      { s with
        todo := Function.update s.todo p demands
        log := s.log ++ [(p, d, .error .noCoverage)] }

/-- The parties take turns as the schedule says. -/
def run [DecidableEq P] (s : Sharing P) : List P → Sharing P
  | [] => s
  | p :: schedule => (s.turn p).run schedule

/-- The demands of a party that were served. -/
def demandsServed [DecidableEq P] (s : Sharing P) (p : P) : List Demand :=
  (s.log.filter (·.1 = p)).map (·.2.1)

/-- All the demands of a party: those served, the one that it holds and those to come. -/
def program [DecidableEq P] (s : Sharing P) (p : P) : List Demand :=
  s.demandsServed p ++ (s.held p).toList ++ s.todo p

section Program

variable [DecidableEq P]

/-- A turn takes the first demand of a party one step further, and nothing of the others. -/
theorem program_turn (s : Sharing P) (p : P) : (s.turn p).program = s.program := by
  funext q
  unfold turn
  by_cases h : p = q
  · subst h
    split
    · next d hheld => simp [program, demandsServed, hheld]
    · rfl
    · next d demands hheld htodo =>
      split <;> simp [program, demandsServed, hheld, htodo]
  · have hq : q ≠ p := Ne.symm h
    split
    · simp [program, demandsServed, h, hq]
    · rfl
    · split <;> simp [program, demandsServed, h, hq]

theorem program_run (s : Sharing P) (schedule : List P) : (s.run schedule).program = s.program := by
  induction schedule generalizing s with
  | nil => rfl
  | cons p schedule ih => exact (ih _).trans (s.program_turn p)

end Program

/-- What a party may hold. -/
def Holds (_ : P) (held : Option Demand) : Prop := ∀ d, held = some d → d.Allowed

/-- Only demands that are allowed are held, and the demands that are served might have been made
one after the other. -/
structure Serial (first : UInt64) (s : Sharing P) : Prop where
  held : ∀ p, Holds p (s.held p)
  served : VariableSupply.serveAll ⟨first⟩ (s.served.map Prod.fst) = (s.served, s.supply)

theorem serial_start (first : UInt64) (programs : P → List Demand) :
    Serial first (start first programs) :=
  ⟨nofun, rfl⟩

namespace Serial

/-- One more demand is served after those that were served before. -/
theorem serve (h : Serial first s) (p : P) {d : Demand} {outcome : Except QueryError String}
    {supply : VariableSupply} (hserve : s.supply.serve d = (outcome, supply)) :
    let served := (s.log ++ [(p, d, outcome)]).map Prod.snd
    VariableSupply.serveAll ⟨first⟩ (served.map Prod.fst) = (served, supply) := by
  have hserved := h.served
  unfold Sharing.served at hserved
  dsimp only
  rw [List.map_append, List.map_append, VariableSupply.serveAll_append, hserved]
  simp only [List.map_cons, List.map_nil, VariableSupply.serveAll, hserve]

variable [DecidableEq P]

theorem update (h : Serial first s) (p : P) {held : Option Demand} (hheld : Holds p held) :
    ∀ q, Holds q (Function.update s.held p held q) :=
  (Function.forall_update_iff s.held Holds).mpr ⟨hheld, fun q _ => h.held q⟩

/-- A turn serves a demand as the supply serves it, or none. -/
theorem turn (h : Serial first s) (p : P) : Serial first (s.turn p) := by
  unfold Sharing.turn
  split
  · next d hd =>
    have hallowed := h.held p d hd
    exact ⟨h.update p nofun, h.serve p (VariableSupply.serve_of_allowed hallowed)⟩
  · exact h
  · next d demands _ _ =>
    split
    · next hallowed =>
      have hheld : Holds p (some d) := by
        rintro _ ⟨⟩
        exact hallowed
      exact ⟨h.update p hheld, h.served⟩
    · next hrefused => exact ⟨h.held, h.serve p (VariableSupply.serve_of_not_allowed hrefused)⟩

theorem run (h : Serial first s) (schedule : List P) : Serial first (s.run schedule) := by
  induction schedule generalizing s with
  | nil => exact h
  | cons p schedule ih => exact ih (h.turn p)

end Serial

end Sharing

/-- From any first number on, the `k`th demand that is not refused is given the variable of the
`k`th number after it modulo 2 ^ 64, and refused ones take none, so two variables are the same
exactly if they are a multiple of 2 ^ 64 apart. This is so of demands made one after the other, and
of the demands of any parties that share the supply, whatever turns they take: none of them is lost
or changes places with another of its party. -/
theorem VariableSupply.fresh_variables (first : UInt64) :
    (∀ demands, (serveAll ⟨first⟩ demands).1.map Prod.fst = demands ∧
        Fresh first (serveAll ⟨first⟩ demands).1 (serveAll ⟨first⟩ demands).2) ∧
      ∀ (P : Type) [DecidableEq P] (programs : P → List Demand) (schedule : List P),
        let shared := (Sharing.start first programs).run schedule
        shared.program = programs ∧
          serveAll ⟨first⟩ (shared.served.map Prod.fst) = (shared.served, shared.supply) ∧
          Fresh first shared.served shared.supply := by
  refine ⟨fun demands => ⟨map_fst_serveAll _ demands, fresh_serveAll first demands⟩, ?_⟩
  intro P _ programs schedule shared
  have hserial := (Sharing.serial_start first programs).run schedule
  have hfresh := fresh_serveAll first (shared.served.map Prod.fst)
  rw [hserial.served] at hfresh
  exact ⟨Sharing.program_run _ schedule, hserial.served, hfresh⟩

end CoverageQuery
