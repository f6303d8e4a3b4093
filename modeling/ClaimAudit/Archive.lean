import ClaimAudit.Report
import ClaimAudit.Score
import ClaimAudit.Timestamp
import ClaimAudit.Uuid

/-! The outcomes of finished audits, each under an identifier that is written once. -/

set_option autoImplicit false

namespace ClaimAudit

inductive AuditStatus where
  | completed
  | failed
  deriving DecidableEq, Repr

namespace AuditStatus

def all : List AuditStatus := [.completed, .failed]

def name : AuditStatus → String
  | .completed => "completed"
  | .failed => "failed"

end AuditStatus

/-- The identifier that a text spells, between blanks or not. -/
def auditId (text : String) : Except Error Uuid :=
  match Uuid.ofString? (Text.trim text) with
  | some id => .ok id
  | none => .error (.notFound s!"invalid audit id {text}: not a UUID")

structure Record where
  auditId : Uuid
  report : Report
  processingMilliseconds : Nat
  createdAt : Timestamp
  deriving DecidableEq

namespace Record

def status (r : Record) : AuditStatus := if r.report.isCompleted then .completed else .failed

def grade? (r : Record) : Option Grade :=
  r.report.findings?.map fun findings => .ofScore findings.faithfulness

def failedStage? (r : Record) : Option Stage := r.report.failedStage?

end Record

/-- Records in the order in which they were written. -/
structure Archive where
  records : List Record := []
  deriving DecidableEq

namespace Archive

def get? (a : Archive) (id : Uuid) : Option Record := a.records.find? fun r => r.auditId = id

def size (a : Archive) : Nat := a.records.length

def isEmpty (a : Archive) : Bool := a.records.isEmpty

def insert (a : Archive) (record : Record) : Except Error Archive :=
  match a.get? record.auditId with
  | some _ => .error (.internal s!"audit {record.auditId.toString} already recorded")
  | none => .ok ⟨a.records ++ [record]⟩

theorem insert_eq_ok {a : Archive} (record : Record) (fresh : a.get? record.auditId = none) :
    a.insert record = .ok ⟨a.records ++ [record]⟩ := by
  simp only [insert, fresh]

theorem get?_append (a : Archive) (record : Record) (id : Uuid) :
    (Archive.mk (a.records ++ [record])).get? id =
      (a.get? id).or (if record.auditId = id then some record else none) := by
  simp only [get?, List.find?_append, List.find?_cons, List.find?_nil]
  congr 1
  by_cases same : record.auditId = id <;> simp [same]

end Archive

end ClaimAudit
