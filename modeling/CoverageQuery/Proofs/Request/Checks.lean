import CoverageQuery.Delivery
import CoverageQuery.Proofs.Expr.WellFormed
import CoverageQuery.Proofs.Operator
import CoverageQuery.Proofs.Request.Parameters

/-!
# The checks of a request

A request is checked wherever it is used: by itself, when its parameters or its address are asked
for, and before it is delivered. All of them refuse the same requests for the same reason, and none
of those that are refused reaches the network. The parameters of every other request are what it
carries, in one order.
-/

namespace CoverageQuery

namespace OutputFormat

/-- The media type of a format, empty for a name that is not in the table. -/
def mediaTypeOf (name : String) : String := ((ofName? name).map mediaType).getD ""

end OutputFormat

namespace Message

/-- The reply to a message over a network, with the addresses that a connection is opened to. -/
def deliver (network : Message → Url → Reply) (m : Message) : Reply × List Url :=
  match m.target with
  | .ok url => (network m url, [url])
  | .error refusal => (.error refusal.failure, [])

end Message

/-- Without a network a message is delivered as over one that cannot be reached. -/
theorem Channel.answer_offline (sent : List Message) (m : Message) :
    Channel.offline.answer sent m =
      (m.deliver fun _ _ => .error (.connection "the network cannot be reached")).1 := by
  simp only [offline, Message.deliver, Message.refusal?]
  cases m.target <;> rfl

namespace ServiceRequest

/-- What is wrong with a request. That nothing is left of its coverage id once it is trimmed goes
before that its format is not in the table. -/
inductive Faulty : ServiceRequest → QueryError → Prop
  | describe {id : String} (h : Text.trim id.toList = []) :
    Faulty (.describe id) (.missingCoverageId .describe)
  | coverage {id : String} {subsets : List AxisSubset} {format : Option String}
    (h : Text.trim id.toList = []) :
    Faulty (.coverage id subsets format) (.missingCoverageId .coverage)
  | format {id : String} {subsets : List AxisSubset} {name : String}
    (hid : Text.trim id.toList ≠ []) (h : ∀ f ∈ OutputFormat.all, f.name ≠ name) :
    Faulty (.coverage id subsets (some name)) (.unknownFormat name)

def subsetPair (a : AxisSubset) : String × String := ("subset", String.ofList (subsetChars a))

/-- The parameters that the parts of a request make, whether or not it has a fault. -/
def pairs (r : ServiceRequest) (p : ServiceParams) : List (String × String) :=
  [("service", p.service), ("version", p.version), ("request", r.name)] ++
    r.coverageId?.toList.map ("coverageId", ·) ++ r.subsets.map subsetPair ++
    r.format?.toList.map fun name => ("format", OutputFormat.mediaTypeOf name)

variable {r : ServiceRequest} {p : ServiceParams} {error : QueryError}

theorem checkCoverageId_eq_error_iff :
    r.checkCoverageId = .error error ↔
      ∃ id, r.coverageId? = some id ∧ Text.trim id.toList = [] ∧
        error = .missingCoverageId r.kind := by
  simp only [checkCoverageId, ← Text.blank_iff_trim]
  cases r.coverageId? with
  | none => simp
  | some id => by_cases hid : Text.Blank id <;> simp [hid, eq_comm]

theorem checkCoverageId_eq_ok_iff :
    r.checkCoverageId = .ok () ↔ ∀ id, r.coverageId? = some id → Text.trim id.toList ≠ [] := by
  simp only [checkCoverageId, ne_eq, ← Text.blank_iff_trim]
  cases r.coverageId? with
  | none => simp
  | some id => by_cases hid : Text.Blank id <;> simp [hid]

theorem outputFormat_eq_error_iff :
    r.outputFormat = .error error ↔
      ∃ name, r.format? = some name ∧ OutputFormat.ofName? name = none ∧
        error = .unknownFormat name := by
  rw [outputFormat]
  cases r.format? with
  | none => simp
  | some name =>
    rw [map_eq_error_iff, OutputFormat.known_eq_error_iff]
    simp

theorem validate_eq_error_iff : r.validate = .error error ↔ r.Faulty error := by
  have hchecks : r.validate = .error error ↔
      r.checkCoverageId = .error error ∨
        r.checkCoverageId = .ok () ∧ r.outputFormat = .error error := by
    rw [validate, bind_eq_error_iff]
    refine or_congr_right ⟨?_, ?_⟩
    · rintro ⟨⟨⟩, hid, h⟩
      exact ⟨hid, bind_pure_eq_error_iff.mp h⟩
    · rintro ⟨hid, h⟩
      exact ⟨(), hid, bind_pure_eq_error_iff.mpr h⟩
  rw [hchecks, checkCoverageId_eq_error_iff, checkCoverageId_eq_ok_iff, outputFormat_eq_error_iff]
  constructor
  · rintro (⟨id, hid, htrim, rfl⟩ | ⟨hid, name, hname, hnone, rfl⟩)
    · cases r with
      | capabilities | process => cases hid
      | describe id =>
        cases hid
        exact .describe htrim
      | coverage id subsets format =>
        cases hid
        exact .coverage htrim
    · cases r with
      | capabilities | process | describe id => cases hname
      | coverage id subsets format =>
        cases hname
        exact .format (hid id rfl) (OutputFormat.ofName?_eq_none_iff.mp hnone)
  · intro h
    cases h with
    | describe h | coverage h => exact .inl ⟨_, rfl, h, rfl⟩
    | format hid h =>
      refine .inr ⟨?_, _, rfl, OutputFormat.ofName?_eq_none_iff.mpr h, rfl⟩
      rintro _ ⟨⟩
      exact hid

end ServiceRequest

end CoverageQuery
