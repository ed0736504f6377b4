import CoverageQuery.ExceptionReport
import CoverageQuery.Json.Basic
import CoverageQuery.QueryError

/-!
# Failures of a request

A request may time out, be refused with an HTTP status or not be delivered at all. Every failure is
reported in one envelope, whose members stand in the order of their names.
-/

namespace CoverageQuery

inductive Failure where
  | timeout (code : Option UInt16)
  | fault (code : UInt16) (exception : Option ExceptionDetail) (extra : String)
  | connection (message : String)
deriving DecidableEq, Repr

namespace ExceptionDetail

/-- The parts that are there. -/
def toJson (d : ExceptionDetail) : JsonValue :=
  .object (d.code.toList.map (fun code => ("exceptionCode", .string code)) ++
    d.text.toList.map (fun text => ("exceptionText", .string text)))

end ExceptionDetail

namespace Failure

/-- The failure that an HTTP status with a body means. -/
def ofStatus (code : UInt16) (body extra : String) : Failure :=
  .fault code (ExceptionReport.parse? body) extra

/-- The HTTP status, if one was received. -/
def code? : Failure → Option UInt16
  | timeout code => code
  | fault code _ _ => some code
  | connection _ => none

def message : Failure → String
  | timeout _ => "Request timeout"
  | fault code exception _ =>
    "HTTP " ++ natText code.toNat ++ ": " ++
      ((exception.bind (·.text)).getD "no exception report")
  | connection message => "Connection failed: " ++ message

def codeJson : Option UInt16 → JsonValue
  | some code => .int code.toNat
  | none => .null

def detailJson : Failure → JsonValue
  | timeout _ => .string "Request Timeout Error"
  | fault _ exception _ => (exception.getD ⟨none, none⟩).toJson
  | connection message => .string message

/-- The text of the failed response, for an HTTP status. -/
def extra? : Failure → Option String
  | fault _ _ extra => some extra
  | _ => none

/-- The members of the error in an envelope. -/
def errorMembers (f : Failure) : List (String × JsonValue) :=
  [("code", codeJson f.code?), ("exceptionDetail", f.detailJson)] ++
    f.extra?.toList.map (fun extra => ("extra", .string extra)) ++
    [("message", .string "Request Failed")]

def toJson (f : Failure) : JsonValue :=
  .object [("error", .object f.errorMembers), ("success", .bool false)]

end Failure

end CoverageQuery
