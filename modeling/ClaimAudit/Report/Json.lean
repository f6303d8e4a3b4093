import ClaimAudit.Json.Decode
import ClaimAudit.Json.Writer
import ClaimAudit.Report

/-! The JSON form of requests and reports.

Each type has a writer and a decoder. A status is decoded leniently and written in
one form; a report carries its outcome in the member `status`, a degradation its
kind in the member `kind`.
-/

set_option autoImplicit false

namespace ClaimAudit

open ClaimAudit.Json (Value Decoder Decode.Fields)

def Stage.json (s : Stage) : Value := .string s.name

def Stage.decode : Decoder Stage := Json.Decode.choice (Stage.all.map fun s => (s.name, s))

def Status.json (s : Status) : Value := .string s.name

def Status.decode : Decoder Status := fun source tree =>
  (Json.Decode.string source tree).bind Status.ofString?

def Claim.json (c : Claim) : Value := .string c.text

def Claim.decode : Decoder Claim := fun source tree =>
  (Json.Decode.string source tree).map Claim.mk

def Request.json (r : Request) : Value := .object
  [("request_id", .string r.requestId),
   ("user_query", .string r.userQuery),
   ("llm_response", .string r.response),
   ("context_docs", .strings r.contextDocs)]

def Request.decode : Decoder Request := fun source tree => do
  let f ← Json.Decode.fields
    ["request_id", "user_query", "llm_response", "context_docs"] source tree
  return { requestId := ← f.required "request_id" Json.Decode.string
           userQuery := ← f.required "user_query" Json.Decode.string
           response := ← f.required "llm_response" Json.Decode.string
           contextDocs := ← f.orElse "context_docs" [] (Json.Decode.list Json.Decode.string) }

def Judgment.json (j : Judgment Float) : Value := .object
  [("claim", j.claim.json),
   ("status", j.status.json),
   ("confidence", .ofFloat j.confidence),
   ("evidence", .strings j.evidence)]

/-- The confidence is taken as it stands, inside the unit interval or not. -/
def Judgment.decode : Decoder (Judgment Float) := fun source tree => do
  let f ← Json.Decode.fields ["claim", "status", "confidence", "evidence"] source tree
  return { claim := ← f.required "claim" Claim.decode
           status := ← f.required "status" Status.decode
           confidence := ← f.required "confidence" Json.Decode.float
           evidence := ← f.required "evidence" (Json.Decode.list Json.Decode.string) }

def Degradation.json : Degradation → Value
  | .retrievalDisabled => .object [("kind", .string "retrieval_disabled")]
  | .extractionFallback => .object [("kind", .string "extraction_fallback")]
  | .verificationFallback claimIndex => .object
    [("kind", .string "verification_fallback"), ("claim_index", .ofNat claimIndex)]

def Degradation.decodeFallback : Decoder Degradation := fun source tree => do
  let f ← Json.Decode.fields ["claim_index"] source tree
  return .verificationFallback (← f.required "claim_index" Json.Decode.word64)

def Degradation.decode : Decoder Degradation := Json.Decode.tagged "kind"
  [("retrieval_disabled", Json.Decode.empty .retrievalDisabled),
   ("extraction_fallback", Json.Decode.empty .extractionFallback),
   ("verification_fallback", Degradation.decodeFallback)]

def Findings.members (r : Findings) : List (String × Value) :=
  [("request_id", .string r.requestId),
   ("claims", .array (r.claims.map Claim.json)),
   ("claim_verifications", .array (r.judgments.map Judgment.json)),
   ("faithfulness_score", .ofFloat r.faithfulness),
   ("hallucination_detected", .bool r.hallucination),
   ("reasoning_trace", .string r.reasoningTrace),
   ("degradations", .array (r.degradations.map Degradation.json)),
   ("evidence_count", .ofNat r.evidenceCount)]

def Findings.json (r : Findings) : Value := .object r.members

def Findings.fieldNames : List String :=
  ["request_id", "claims", "claim_verifications", "faithfulness_score", "hallucination_detected",
   "reasoning_trace", "degradations", "evidence_count"]

def Findings.decode : Decoder Findings := fun source tree => do
  let f ← Json.Decode.fields Findings.fieldNames source tree
  return { requestId := ← f.required "request_id" Json.Decode.string
           claims := ← f.required "claims" (Json.Decode.list Claim.decode)
           judgments := ← f.required "claim_verifications" (Json.Decode.list Judgment.decode)
           faithfulness := ← f.required "faithfulness_score" Json.Decode.float
           hallucination := ← f.required "hallucination_detected" Json.Decode.bool
           reasoningTrace := ← f.required "reasoning_trace" Json.Decode.string
           degradations := ← f.orElse "degradations" [] (Json.Decode.list Degradation.decode)
           evidenceCount := ← f.orElse "evidence_count" 0 Json.Decode.word64 }

def Failure.members (f : Failure) : List (String × Value) :=
  [("request_id", .string f.requestId), ("stage", f.stage.json), ("error", .string f.error)]

def Failure.json (f : Failure) : Value := .object f.members

def Failure.decode : Decoder Failure := fun source tree => do
  let f ← Json.Decode.fields ["request_id", "stage", "error"] source tree
  return { requestId := ← f.required "request_id" Json.Decode.string
           stage := ← f.required "stage" Stage.decode
           error := ← f.required "error" Json.Decode.string }

def Report.json : Report → Value
  | .completed findings => .object (("status", .string "completed") :: findings.members)
  | .failed failure => .object (("status", .string "failed") :: failure.members)

def Report.decode : Decoder Report := Json.Decode.tagged "status"
  [("completed", fun source tree => (Findings.decode source tree).map .completed),
   ("failed", fun source tree => (Failure.decode source tree).map .failed)]

end ClaimAudit
