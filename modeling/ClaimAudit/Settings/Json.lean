import ClaimAudit.Json.Decode
import ClaimAudit.Settings

/-! The JSON form of settings. A key to a service is read but never written. -/

set_option autoImplicit false

namespace ClaimAudit.Settings

open ClaimAudit.Json (Value Decoder)

def json (s : Settings) : Value := .object
  [("llm_provider", .string s.llmProvider),
   ("llm_model", .string s.llmModel),
   ("ollama_base_url", .string s.ollamaBaseUrl),
   ("openai_base_url", .ofOption .string s.openaiBaseUrl),
   ("llm_timeout_secs", .ofNat s.llmTimeoutSeconds),
   ("embedding_model", .string s.embeddingModel),
   ("embedding_dimension", .ofNat s.embeddingDimension),
   ("qdrant_url", .ofOption .string s.qdrantUrl),
   ("qdrant_collection", .string s.qdrantCollection),
   ("knowledge_db", .ofOption .string s.knowledgeDb),
   ("audit_timeout_secs", .ofOption .ofNat s.auditTimeoutSeconds),
   ("log_level", .string s.logLevel)]

def fieldNames : List String :=
  ["llm_provider", "llm_model", "ollama_base_url", "openai_api_key", "openai_base_url",
   "llm_timeout_secs", "embedding_model", "embedding_dimension", "qdrant_url",
   "qdrant_collection", "knowledge_db", "audit_timeout_secs", "log_level"]

def decode : Decoder Settings := fun source tree => do
  let f ← Json.Decode.fields fieldNames source tree
  return { llmProvider := ← f.required "llm_provider" Json.Decode.string
           llmModel := ← f.required "llm_model" Json.Decode.string
           ollamaBaseUrl := ← f.required "ollama_base_url" Json.Decode.string
           openaiApiKey := ← f.nullable "openai_api_key" Json.Decode.string
           openaiBaseUrl := ← f.nullable "openai_base_url" Json.Decode.string
           llmTimeoutSeconds := ← f.required "llm_timeout_secs" Json.Decode.word64
           embeddingModel := ← f.required "embedding_model" Json.Decode.string
           embeddingDimension := ← f.required "embedding_dimension" Json.Decode.word64
           qdrantUrl := ← f.nullable "qdrant_url" Json.Decode.string
           qdrantCollection := ← f.required "qdrant_collection" Json.Decode.string
           knowledgeDb := ← f.nullable "knowledge_db" Json.Decode.string
           auditTimeoutSeconds := ← f.nullable "audit_timeout_secs" Json.Decode.word64
           logLevel := ← f.required "log_level" Json.Decode.string }

end ClaimAudit.Settings
