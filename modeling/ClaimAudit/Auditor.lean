import ClaimAudit.Assessment
import ClaimAudit.Extraction
import ClaimAudit.Report
import ClaimAudit.Retriever
import ClaimAudit.Verification
import ClaimAudit.Window

/-! Auditing one answer from its claims to its report.

The stages follow one another and hand on a draft; the first failure ends the audit
with nothing but its cause. What the later stages cannot judge is recorded as unknown.
-/

set_option autoImplicit false

namespace ClaimAudit

/-- Everything an audit works with. Without a retriever only the evidence of the
caller counts. -/
structure Auditor (σ : Type) where
  client : Client σ
  retriever : Option (Retriever σ) := none
  extraction : Extraction.Config := {}
  verification : Verification.Config := {}
  scoring : Scoring Float := .standard

namespace Auditor

variable {σ : Type}

def extract (a : Auditor σ) (response : String) : Session σ Extraction := do
  match ← Session.ask a.client (Extraction.request a.extraction response) with
  | .ok completion => return .ofReply a.extraction response completion.content
  | .error error => .fail error

def judge (a : Auditor σ) (evidence : List String) (claim : Claim) :
    Session σ (Judgment Float) := do
  return Verification.judged claim
    (← Session.ask a.client (Verification.request a.verification evidence claim))

/-- The judgment from a call whose time has come. -/
def judgeNow (a : Auditor σ) (evidence : List String) (claim : Claim) :
    Session σ (Judgment Float) := do
  return Verification.judged claim
    (← Session.converse a.client (Verification.request a.verification evidence claim))

def judgeAll (a : Auditor σ) (evidence : List String) (claims : List Claim) :
    Session σ (List (Judgment Float)) :=
  if a.verification.maxConcurrency ≤ 1 then claims.mapM (a.judge evidence)
  else
    let delay (claim : Claim) : Nat :=
      a.client.delay (Verification.request a.verification evidence claim)
    Window.run a.verification.maxConcurrency delay (a.judgeNow evidence) claims

def unjudged (judgments : List (Judgment Float)) : List Degradation :=
  (judgments.zipIdx.filter fun (j, _) => j.status = .unknown).map fun (_, index) =>
    .verificationFallback index

structure Draft where
  claims : List Claim := []
  /-- The texts found in the knowledge base. -/
  retrieved : List String := []
  evidenceCount : Nat := 0
  judgments : List (Judgment Float) := []
  assessment : Option Assessment := none
  degradations : List Degradation := []

/-- Without a knowledge base an audit is degraded from its beginning. -/
def blank (a : Auditor σ) : Draft where
  degradations := if a.retriever.isNone then [.retrievalDisabled] else []

def decompose (a : Auditor σ) (request : Request) (draft : Draft) : Session σ Draft := do
  let extraction ← a.extract request.response
  return { draft with
    claims := extraction.claims
    degradations :=
      draft.degradations ++ if extraction.fallback then [.extractionFallback] else [] }

def retrieve (a : Auditor σ) (request : Request) (draft : Draft) : Session σ Draft :=
  match a.retriever with
  | none => .fail (.internal "retrieve stage without a retriever")
  | some retriever => do
    let retrieved ← retriever.consult request.userQuery draft.claims
    return { draft with retrieved }

/-- The caller's evidence comes before what was found in the knowledge base. -/
def verify (a : Auditor σ) (request : Request) (draft : Draft) : Session σ Draft := do
  let evidence := Evidence.unique (request.contextDocs ++ draft.retrieved)
  let judgments ← a.judgeAll evidence draft.claims
  return { draft with
    retrieved := []
    evidenceCount := evidence.length
    judgments
    degradations := draft.degradations ++ unjudged judgments }

def score (a : Auditor σ) (draft : Draft) : Session σ Draft :=
  if draft.judgments.length = draft.claims.length then
    return { draft with assessment := some (Assessment.of a.scoring draft.judgments) }
  else
    .fail (.internal
      s!"{draft.judgments.length} verifications for {draft.claims.length} claims")

def perform (a : Auditor σ) (request : Request) (draft : Draft) : Stage → Session σ Draft
  | .decompose => a.decompose request draft
  | .retrieve => a.retrieve request draft
  | .verify => a.verify request draft
  | .score => a.score draft
  | .done => return draft

def walk (a : Auditor σ) (request : Request) (stage : Stage) (draft : Draft) :
    Session σ Draft :=
  if stage = .done then return draft
  else do
    Session.enter stage
    let draft ← a.perform request draft stage
    a.walk request (stage.next a.retriever.isSome) draft
termination_by stage.stepsLeft
decreasing_by exact Stage.stepsLeft_next_lt _ ‹_›

def findings (a : Auditor σ) (request : Request) : Session σ Findings := do
  let draft ← a.walk request .decompose a.blank
  Session.enter .done
  match draft.assessment with
  | none =>
    .fail ((Error.internal "run finished without a score").atStage .score)
  | some assessment =>
    return {
      requestId := request.requestId
      claims := draft.claims
      judgments := draft.judgments
      faithfulness := assessment.faithfulness
      hallucination := assessment.hallucination
      reasoningTrace := assessment.explanation
      degradations := draft.degradations
      evidenceCount := draft.evidenceCount }

/-- The report of a finished run. A halt is blamed on the stage that was running. -/
def reportOf (request : Request) (outcome : Except Halt Findings) (progress : Progress σ) :
    Report :=
  match outcome with
  | .ok findings => .completed findings
  | .error halt =>
    .failed (.ofError request.requestId progress.running (halt.blamed progress.running))

/-- Audit one answer, within a limit of milliseconds if there is one. -/
def audit (a : Auditor σ) (limit : Option Nat) (request : Request) (outside : σ) :
    Report × Progress σ :=
  let (outcome, progress) := (a.findings request).start limit outside
  (reportOf request outcome progress, progress)

end Auditor

end ClaimAudit
