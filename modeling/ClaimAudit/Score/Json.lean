import ClaimAudit.Json.Decode
import ClaimAudit.Score

/-! The JSON form of scoring settings, triggers and grades. -/

set_option autoImplicit false

namespace ClaimAudit

open ClaimAudit.Json (Value Decoder)

def Scoring.json (s : Scoring Float) : Value := .object
  [("supported_score", .ofFloat s.supported),
   ("partially_supported_score", .ofFloat s.partiallySupported),
   ("unsupported_score", .ofFloat s.unsupported),
   ("unknown_score", .ofFloat s.unknown),
   ("min_weight", .ofFloat s.minWeight),
   ("high_confidence_threshold", .ofFloat s.highConfidence),
   ("problematic_ratio_threshold", .ofFloat s.problematicRatio),
   ("max_flagged_examples", .ofNat s.maxExamples),
   ("example_max_chars", .ofNat s.maxExampleChars)]

def Scoring.fieldNames : List String :=
  ["supported_score", "partially_supported_score", "unsupported_score", "unknown_score",
   "min_weight", "high_confidence_threshold", "problematic_ratio_threshold",
   "max_flagged_examples", "example_max_chars"]

def Scoring.decode : Decoder (Scoring Float) := fun source tree => do
  let f ← Json.Decode.fields Scoring.fieldNames source tree
  return { supported := ← f.required "supported_score" Json.Decode.float
           partiallySupported := ← f.required "partially_supported_score" Json.Decode.float
           unsupported := ← f.required "unsupported_score" Json.Decode.float
           unknown := ← f.required "unknown_score" Json.Decode.float
           minWeight := ← f.required "min_weight" Json.Decode.float
           highConfidence := ← f.required "high_confidence_threshold" Json.Decode.float
           problematicRatio := ← f.required "problematic_ratio_threshold" Json.Decode.float
           maxExamples := ← f.required "max_flagged_examples" Json.Decode.word64
           maxExampleChars := ← f.required "example_max_chars" Json.Decode.word64 }

def Trigger.json : Trigger Float → Value
  | .highConfidenceUnsupported claimIndex confidence => .object
    [("kind", .string "high_confidence_unsupported"), ("claim_index", .ofNat claimIndex),
     ("confidence", .ofFloat confidence)]
  | .problematicRatio ratio => .object
    [("kind", .string "problematic_ratio"), ("ratio", .ofFloat ratio)]

def Trigger.decodeUnsupported : Decoder (Trigger Float) := fun source tree => do
  let f ← Json.Decode.fields ["claim_index", "confidence"] source tree
  let claimIndex ← f.required "claim_index" Json.Decode.word64
  let confidence ← f.required "confidence" Json.Decode.float
  return .highConfidenceUnsupported claimIndex confidence

def Trigger.decodeRatio : Decoder (Trigger Float) := fun source tree => do
  let f ← Json.Decode.fields ["ratio"] source tree
  return .problematicRatio (← f.required "ratio" Json.Decode.float)

def Trigger.decode : Decoder (Trigger Float) := Json.Decode.tagged "kind"
  [("high_confidence_unsupported", Trigger.decodeUnsupported),
   ("problematic_ratio", Trigger.decodeRatio)]

def Grade.json (g : Grade) : Value := .string g.name

def Grade.decode : Decoder Grade := Json.Decode.choice (Grade.all.map fun g => (g.name, g))

end ClaimAudit
