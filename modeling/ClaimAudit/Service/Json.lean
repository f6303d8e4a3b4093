import ClaimAudit.Report.Json
import ClaimAudit.Score.Json
import ClaimAudit.Service

/-! The JSON form of records, submissions and health reports. -/

set_option autoImplicit false

namespace ClaimAudit

open ClaimAudit.Json (Value Decoder)

def Uuid.json (id : Uuid) : Value := .string id.toString

/-- An identifier in JSON stands alone, without blanks around it. -/
def Uuid.decode : Decoder Uuid := fun source tree =>
  (Json.Decode.string source tree).bind Uuid.ofString?

def Timestamp.json (t : Timestamp) : Value := .string t.toString

def Timestamp.decode : Decoder Timestamp := fun source tree =>
  (Json.Decode.string source tree).bind Timestamp.ofString?

def AuditStatus.json (s : AuditStatus) : Value := .string s.name

def AuditStatus.decode : Decoder AuditStatus :=
  Json.Decode.choice (AuditStatus.all.map fun s => (s.name, s))

def Record.json (r : Record) : Value := .object
  [("audit_id", r.auditId.json),
   ("report", r.report.json),
   ("processing_time_ms", .ofNat r.processingMilliseconds),
   ("created_at", r.createdAt.json)]

def Record.decode : Decoder Record := fun source tree => do
  let f ← Json.Decode.fields ["audit_id", "report", "processing_time_ms", "created_at"] source tree
  return { auditId := ← f.required "audit_id" Uuid.decode
           report := ← f.required "report" Report.decode
           processingMilliseconds := ← f.required "processing_time_ms" Json.Decode.word64
           createdAt := ← f.required "created_at" Timestamp.decode }

def Submission.json (s : Submission) : Value := .object
  [("audit_id", s.auditId.json), ("status", s.status.json)]

def Submission.decode : Decoder Submission := fun source tree => do
  let f ← Json.Decode.fields ["audit_id", "status"] source tree
  return { auditId := ← f.required "audit_id" Uuid.decode
           status := ← f.required "status" AuditStatus.decode }

def HealthReport.json (h : HealthReport) : Value := .object
  [("healthy", .bool h.healthy),
   ("version", .string h.version),
   ("dependencies", .object (h.dependencies.map fun (name, ok) => (name, .bool ok)))]

/-- Of dependencies with one name the last one counts. -/
def HealthReport.dependenciesOf (given : List (String × Bool)) : List (String × Bool) :=
  (Json.Members.ofList (given.map fun (name, ok) => (name, Value.bool ok))).filterMap
    fun (name, value) => match value with
      | .bool ok => some (name, ok)
      | _ => none

def HealthReport.decode : Decoder HealthReport := fun source tree => do
  let f ← Json.Decode.fields ["healthy", "version", "dependencies"] source tree
  let dependencies ← f.required "dependencies" (Json.Decode.members Json.Decode.bool)
  return { healthy := ← f.required "healthy" Json.Decode.bool
           version := ← f.required "version" Json.Decode.string
           dependencies := dependenciesOf dependencies }

end ClaimAudit
