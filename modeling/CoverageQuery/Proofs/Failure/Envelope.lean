import CoverageQuery.Failure

/-!
# What an envelope tells

An envelope tells the status, the detail and the text of a failure, each at a path of its own. The
failures behind one envelope are the same but for two distinctions: whether a fault came without a
detail or with an empty one, and whether there was a timeout without a status or a connection that
failed with the message of one.
-/

namespace CoverageQuery

namespace JsonValue

/-- The first member of this name; none in anything but an object. -/
def member? (name : String) : JsonValue → Option JsonValue
  | object members => members.lookup name
  | _ => none

/-- What stands at the end of a path of names; of an object only that it is one. -/
def at? : List String → JsonValue → Option JsonValue
  | [], object _ => some (object [])
  | [], v => some v
  | name :: path, v => (v.member? name).bind (at? path)

/-- One JSON value: the same at the end of every path, in whatever order the members stand. -/
def Same (v w : JsonValue) : Prop := ∀ path, v.at? path = w.at? path

variable {v w v' w' : JsonValue} {name : String}

theorem Same.member (h : v.Same w) (hv : v.member? name = some v') (hw : w.member? name = some w') :
    v'.Same w' := by
  intro path
  have hpath := h (name :: path)
  rwa [at?, at?, hv, hw, Option.bind_some, Option.bind_some] at hpath

theorem eq_of_map_string {s t : Option String} (h : s.map string = t.map string) : s = t :=
  Option.map_injective (fun _ _ => string.inj) h

end JsonValue

open JsonValue

namespace ExceptionDetail

theorem code_at (d : ExceptionDetail) : d.toJson.at? ["exceptionCode"] = d.code.map string := by
  obtain ⟨text, code⟩ := d
  cases code <;> cases text <;> simp [toJson, at?, member?, List.lookup_cons]

theorem text_at (d : ExceptionDetail) : d.toJson.at? ["exceptionText"] = d.text.map string := by
  obtain ⟨text, code⟩ := d
  cases code <;> cases text <;> simp [toJson, at?, member?, List.lookup_cons]

/-- Both parts of a detail can be read back, and so can that one is not there. -/
theorem eq_of_same {d e : ExceptionDetail} (h : d.toJson.Same e.toJson) : d = e := by
  have hcode := h ["exceptionCode"]
  have htext := h ["exceptionText"]
  rw [code_at, code_at] at hcode
  rw [text_at, text_at] at htext
  obtain ⟨text, code⟩ := d
  obtain ⟨text', code'⟩ := e
  obtain rfl : code = code' := eq_of_map_string hcode
  obtain rfl : text = text' := eq_of_map_string htext
  rfl

end ExceptionDetail

namespace Failure

/-- The failure as its envelope tells it: a fault without a detail has an empty one, and a timeout
without a status is a connection that failed with a message. -/
def told : Failure → Failure
  | fault code none extra => fault code (some ⟨none, none⟩) extra
  | timeout none => connection "Request Timeout Error"
  | f => f

variable {f g : Failure}

section Members

theorem error_member (f : Failure) : f.toJson.member? "error" = some (.object f.errorMembers) := by
  simp [toJson, member?]

theorem success_at (f : Failure) : f.toJson.at? ["success"] = some (.bool false) := by
  simp [toJson, at?, member?, List.lookup_cons]

theorem code_at (f : Failure) : f.toJson.at? ["error", "code"] = some (codeJson f.code?) := by
  rw [at?, error_member, Option.bind_some]
  cases hcode : f.code? <;> simp [errorMembers, codeJson, at?, member?, hcode]

theorem extra_at (f : Failure) : f.toJson.at? ["error", "extra"] = f.extra?.map string := by
  rw [at?, error_member, Option.bind_some]
  cases hextra : f.extra? <;> simp [errorMembers, at?, member?, List.lookup_cons, hextra]

theorem detail_member (f : Failure) :
    (JsonValue.object f.errorMembers).member? "exceptionDetail" = some f.detailJson := by
  simp [errorMembers, member?, List.lookup_cons]

end Members

theorem codeJson_injective : Function.Injective codeJson := by
  intro c d h
  cases c with
  | none => cases d <;> simp_all [codeJson]
  | some c =>
    cases d with
    | none => cases h
    | some d =>
      have hcode := Int.ofNat.inj (int.inj h)
      rw [UInt16.toNat_inj.mp hcode]

theorem told_fault (code : UInt16) (exception : Option ExceptionDetail) (extra : String) :
    (fault code exception extra).told = fault code (some (exception.getD ⟨none, none⟩)) extra := by
  cases exception <;> rfl

/-- The status, the detail and the text of the response tell a failure. The detail of a fault is an
object, that of any other failure a text. -/
theorem told_eq_of_members (hcode : f.code? = g.code?) (hdetail : f.detailJson.Same g.detailJson)
    (hextra : f.extra? = g.extra?) : f.told = g.told := by
  have hroot := hdetail []
  cases f with
  | fault code exception extra =>
    cases g with
    | timeout _ | connection _ => cases hextra
    | fault code' exception' extra' =>
      obtain rfl : code = code' := Option.some.inj hcode
      obtain rfl : extra = extra' := Option.some.inj hextra
      rw [told_fault, told_fault, ExceptionDetail.eq_of_same hdetail]
  | timeout code =>
    cases g with
    | fault _ _ _ => cases hextra
    | timeout code' => exact congrArg (told ∘ timeout) hcode
    | connection message =>
      obtain rfl : code = none := hcode
      exact congrArg connection (string.inj (Option.some.inj hroot))
  | connection message =>
    cases g with
    | fault _ _ _ => cases hextra
    | timeout code =>
      obtain rfl : none = code := hcode
      exact congrArg connection (string.inj (Option.some.inj hroot))
    | connection message' => exact congrArg connection (string.inj (Option.some.inj hroot))

@[simp] theorem toJson_told (f : Failure) : f.told.toJson = f.toJson := by
  unfold told
  split <;> rfl

theorem told_eq_of_same (h : f.toJson.Same g.toJson) : f.told = g.told := by
  have hcode := h ["error", "code"]
  have hextra := h ["error", "extra"]
  rw [code_at, code_at, Option.some_inj] at hcode
  rw [extra_at, extra_at] at hextra
  have herror := h.member f.error_member g.error_member
  have hdetail := herror.member f.detail_member g.detail_member
  exact told_eq_of_members (codeJson_injective hcode) hdetail (eq_of_map_string hextra)

/-- Two failures have one envelope exactly if they are told alike, whether or not the order of its
members counts. Every envelope denies success and holds the status, or null where there is none. -/
theorem toJson_same_iff (f g : Failure) :
    (f.toJson.Same g.toJson ↔ f.told = g.told) ∧ (f.toJson = g.toJson ↔ f.told = g.told) ∧
    f.toJson.at? ["success"] = some (.bool false) ∧
    f.toJson.at? ["error", "code"] =
      some (f.code?.elim .null fun code => .int code.toNat) := by
  have heq : f.told = g.told → f.toJson = g.toJson := by
    intro h
    rw [← f.toJson_told, h, g.toJson_told]
  have hsame : f.toJson = g.toJson → f.toJson.Same g.toJson := by
    intro h path
    rw [h]
  refine ⟨⟨told_eq_of_same, ?_⟩, ⟨?_, heq⟩, f.success_at, ?_⟩
  · exact fun h => hsame (heq h)
  · exact fun h => told_eq_of_same (hsame h)
  · rw [code_at]
    cases f.code? <;> rfl

end Failure

end CoverageQuery
