import ClaimAudit.Error
import ClaimAudit.Judgment

/-! What an audit reports: findings or a failure, never a mix. -/

set_option autoImplicit false

namespace ClaimAudit

structure Request where
  /-- The caller's own identifier. -/
  requestId : String
  userQuery : String
  /-- The answer under audit. -/
  response : String
  /-- Evidence that the caller supplies. -/
  contextDocs : List String := []
  deriving DecidableEq, Repr

/-- A path of less quality that an audit took without failing. -/
inductive Degradation where
  /-- Without a knowledge base only the caller's evidence is used. -/
  | retrievalDisabled
  /-- The extraction reply was unusable, so the whole answer became one claim. -/
  | extractionFallback
  /-- The claim at this position could not be judged. -/
  | verificationFallback (claimIndex : Nat)
  deriving DecidableEq, Repr

structure Findings where
  requestId : String
  claims : List Claim
  /-- One judgment a claim, in the order of the claims. -/
  judgments : List (Judgment Float)
  faithfulness : Float
  hallucination : Bool
  reasoningTrace : String
  degradations : List Degradation := []
  /-- How many documents the claims were judged against. -/
  evidenceCount : Nat := 0
  deriving DecidableEq

structure Failure where
  requestId : String
  stage : Stage
  error : String
  deriving DecidableEq, Repr

inductive Report where
  | completed (findings : Findings)
  | failed (failure : Failure)
  deriving DecidableEq

namespace Findings

def degraded (f : Findings) : Bool := !f.degradations.isEmpty

def count (f : Findings) (status : Status) : Nat := countStatus status f.judgments

end Findings

namespace Failure

/-- The failure of the running stage, unless the error blames another. -/
def ofError (requestId : String) (running : Stage) (error : Error) : Failure :=
  let (stage, message) := error.attributed running
  ⟨requestId, stage, message⟩

end Failure

namespace Report

def requestId : Report → String
  | .completed findings => findings.requestId
  | .failed failure => failure.requestId

def isCompleted : Report → Bool
  | .completed _ => true
  | .failed _ => false

def findings? : Report → Option Findings
  | .completed findings => some findings
  | .failed _ => none

def failure? : Report → Option Failure
  | .completed _ => none
  | .failed failure => some failure

def failedStage? (r : Report) : Option Stage := r.failure?.map (·.stage)

def explanation : Report → String
  | .completed findings => findings.reasoningTrace
  | .failed failure => s!"Error: {failure.error}"

def toExcept : Report → Except Error Findings
  | .completed findings => .ok findings
  | .failed failure => .error (.staged failure.stage failure.error)

end Report

end ClaimAudit
