import ClaimAudit.Error
import ClaimAudit.Text.Blank
import ClaimAudit.Text.Quoted

/-! Settings from an environment of named values. A blank value counts as none. -/

set_option autoImplicit false

namespace ClaimAudit

structure Settings where
  /-- The name of the backend. -/
  llmProvider : String := "ollama"
  /-- The model that extracts and judges claims. -/
  llmModel : String := "llama3.2"
  ollamaBaseUrl : String := "http://localhost:11434"
  openaiApiKey : Option String := none
  openaiBaseUrl : Option String := none
  llmTimeoutSeconds : Nat := 60
  /-- The model of the same backend that embeds texts. -/
  embeddingModel : String := "all-minilm"
  embeddingDimension : Nat := 384
  /-- The vector server; it takes precedence over a database file. -/
  qdrantUrl : Option String := none
  qdrantCollection : String := "truthtable_knowledge"
  knowledgeDb : Option String := none
  auditTimeoutSeconds : Option Nat := none
  logLevel : String := "info"
  deriving DecidableEq, Repr

namespace Settings

def present (lookup : String → Option String) (key : String) : Option String :=
  (lookup key).filter fun value => !Text.allBlank value

/-- Digits after an optional plus sign, below `2 ^ 64`. -/
def wholeNumber? (cs : List Char) : Option Nat :=
  let digits : List Char := match cs with
    | '+' :: digits => digits
    | digits => digits
  let n : Nat := digits.foldl (fun n c => n * 10 + (c.toNat - '0'.toNat)) 0
  if digits ≠ [] ∧ digits.all Char.isDigit ∧ n < 0x10000000000000000 then some n else none

def notANumber (key value : String) : Error :=
  .configuration s!"{key} must be a whole number, got {Text.quoted value}"

def number (lookup : String → Option String) (key : String) : Except Error (Option Nat) :=
  match present lookup key with
  | none => .ok none
  | some value =>
    match wholeNumber? (Text.trimChars value.toList) with
    | some n => .ok (some n)
    | none => .error (notANumber key value)

def ofLookup (lookup : String → Option String) : Except Error Settings := do
  let text := present lookup
  let defaults : Settings := {}
  let llmTimeoutSeconds ← number lookup "LLM_TIMEOUT_SECS"
  let embeddingDimension ← number lookup "EMBEDDING_DIMENSION"
  let auditTimeoutSeconds ← number lookup "AUDIT_TIMEOUT_SECS"
  return {
    llmProvider := (text "LLM_PROVIDER").getD defaults.llmProvider
    llmModel := (text "LLM_MODEL").getD defaults.llmModel
    ollamaBaseUrl := (text "OLLAMA_BASE_URL").getD defaults.ollamaBaseUrl
    openaiApiKey := text "OPENAI_API_KEY"
    openaiBaseUrl := text "OPENAI_BASE_URL"
    llmTimeoutSeconds := llmTimeoutSeconds.getD defaults.llmTimeoutSeconds
    embeddingModel := (text "EMBEDDING_MODEL").getD defaults.embeddingModel
    embeddingDimension := embeddingDimension.getD defaults.embeddingDimension
    qdrantUrl := text "QDRANT_URL"
    qdrantCollection := (text "QDRANT_COLLECTION").getD defaults.qdrantCollection
    knowledgeDb := text "KNOWLEDGE_DB"
    auditTimeoutSeconds
    logLevel := (text "LOG_LEVEL").getD defaults.logLevel }

def retrievalConfigured (s : Settings) : Bool := s.qdrantUrl.isSome || s.knowledgeDb.isSome

def auditLimit (s : Settings) : Option Nat := s.auditTimeoutSeconds.map (· * 1000)

end Settings

end ClaimAudit
