import AdaptiveForm.Pipeline.Run

/-!
# Responses

The answer to a request is a status and, unless the request was refused unread, an object. The
object of a transformation begins with the identifier of the job, which the caller provides.
-/

namespace AdaptiveForm.Service

structure Response where
  status : Nat
  body : Option Entries

inductive Failure where
  | pipeline (e : PipelineError)
  | badRequest (reason : String)
  deriving DecidableEq, Repr

def Failure.message : Failure → String
  | .pipeline e => "Pipeline error: " ++ e.message
  | .badRequest reason => "Invalid request: " ++ reason

def Failure.status : Failure → Nat
  | .badRequest _ => 400
  | .pipeline (.transform _) => 400
  | .pipeline (.source (.json _)) => 422
  | .pipeline (.source (.table _)) => 422
  | .pipeline (.source (.unreadable _)) => 404
  | .pipeline (.source (.unreachable _)) => 502

def Response.bare (status : Nat) : Response := ⟨status, none⟩

def Response.ofFailure (jobId : String) (failure : Failure) : Response where
  status := failure.status
  body := some [
    ("jobId", .string jobId),
    ("status", .string "error"),
    ("error", .string failure.message),
    ("formDefinition", .null),
    ("sourceData", .null),
    ("errors", .array [])]

def tableSummary (info : TableInfo) : Json :=
  .object [
    ("encoding", .string info.encoding),
    ("delimiter", .string (Table.delimiterName info.delimiter)),
    ("rowCount", .ofNat info.rowCount),
    ("columns", .array (info.headers.map .string))]

def summary (report : Report) : Json :=
  .object [
    ("rowCount", .ofNat report.rowCount),
    ("fieldCount", .ofNat report.outcome.fieldCount),
    ("propertyCount", .ofNat report.outcome.propertyCount),
    ("ruleErrors", .ofNat report.outcome.failures.length),
    ("csvInfo", (report.info.map tableSummary).getD .null),
    ("validation", .object [
      ("valid", .bool report.isValid),
      ("errors", .array (report.violations.map .string))])]

/-- The word for how a transformation went: whether anything is left to look at. -/
def statusWord (report : Report) : String :=
  if report.outcome.failures.isEmpty && report.isValid then "ready" else "warning"

def Response.ofReport (jobId : String) (report : Report) : Response where
  status := 200
  body := some [
    ("jobId", .string jobId),
    ("status", .string (statusWord report)),
    ("formDefinition", report.outcome.definition),
    ("sourceData", report.outcome.source.getD .null),
    ("errors", .array (report.outcome.failures.map RuleFailure.toJson)),
    ("metadata", summary report)]

end AdaptiveForm.Service
