import ClaimAudit.Archive
import ClaimAudit.Auditor

/-! Audits on request: each is run to its end, recorded under an identifier of its
own, and can be looked up from then on. -/

set_option autoImplicit false

namespace ClaimAudit

structure Service (σ : Type) where
  auditor : Auditor σ
  /-- Audits that take more milliseconds than this are abandoned. -/
  limit : Option Nat := none

structure Submission where
  auditId : Uuid
  status : AuditStatus
  deriving DecidableEq, Repr

structure HealthReport where
  healthy : Bool
  version : String
  /-- Which dependencies can be reached, by name. -/
  dependencies : List (String × Bool)
  deriving DecidableEq, Repr

namespace Service

def version : String := "0.1.0"

structure State (σ : Type) where
  /-- The condition of everything that audits work with. -/
  outside : σ
  archive : Archive := {}

variable {σ : Type}

/-- Write a record and acknowledge its audit. -/
def file (record : Record) : Action (State σ) Submission := do
  let state ← get
  let archive ← liftExcept (state.archive.insert record)
  set { state with archive }
  return ⟨record.auditId, record.status⟩

def submit (s : Service σ) (id : Uuid) (now : Timestamp) (request : Request) :
    Action (State σ) Submission := do
  let state ← get
  let (report, progress) := s.auditor.audit s.limit request state.outside
  set { state with outside := progress.outside }
  file ⟨id, report, progress.clock, now⟩

def result (id : Uuid) : Action (State σ) Record := do
  match (← get).archive.get? id with
  | some record => return record
  | none => throw (.notFound s!"Audit {id.toString} not found")

theorem run_file (record : Record) (state : State σ) :
    (file record).run state =
      match state.archive.insert record with
      | .ok archive => (.ok ⟨record.auditId, record.status⟩, { state with archive })
      | .error error => (.error error, state) := by
  simp only [file, Action.run_bind, Action.run_get, Action.run_liftExcept]
  cases state.archive.insert record <;> rfl

theorem run_file_of_fresh {record : Record} {state : State σ}
    (fresh : state.archive.get? record.auditId = none) :
    (file record).run state =
      (.ok ⟨record.auditId, record.status⟩,
        { state with archive := ⟨state.archive.records ++ [record]⟩ }) := by
  rw [run_file, Archive.insert_eq_ok _ fresh]

theorem run_submit (s : Service σ) (id : Uuid) (now : Timestamp) (request : Request)
    (state : State σ) :
    (s.submit id now request).run state =
      (file ⟨id, (s.auditor.audit s.limit request state.outside).1,
        (s.auditor.audit s.limit request state.outside).2.clock, now⟩).run
        { state with outside := (s.auditor.audit s.limit request state.outside).2.outside } := rfl

theorem run_result (id : Uuid) (state : State σ) :
    (result id).run state =
      match state.archive.get? id with
      | some record => (.ok record, state)
      | none => (.error (.notFound s!"Audit {id.toString} not found"), state) := by
  simp only [result, Action.run_bind, Action.run_get]
  cases state.archive.get? id <;> rfl

theorem run_result_snd (id : Uuid) (state : State σ) :
    ((result id).run state).2 = state := by
  rw [run_result]
  cases state.archive.get? id <;> rfl

def health (s : Service σ) : StateM σ HealthReport := do
  let backend := (s.auditor.client.provider.name, ← s.auditor.client.healthy)
  let dependencies ← match s.auditor.retriever with
    | none => pure [backend]
    | some retriever => pure [backend, ("vector_store", ← retriever.store.healthy)]
  return { healthy := dependencies.all (·.2), version, dependencies }

end Service

end ClaimAudit
