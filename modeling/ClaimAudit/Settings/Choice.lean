import ClaimAudit.Backend.Ollama
import ClaimAudit.Backend.OpenAI
import ClaimAudit.Knowledge.Qdrant
import ClaimAudit.Settings

/-! The backend and the knowledge base that settings choose. -/

set_option autoImplicit false

namespace ClaimAudit

def Provider.ofString (name : String) : Except Error Provider :=
  let normal := String.ofList ((Text.trimChars name.toList).map Char.toLower)
  if normal = "ollama" then .ok .ollama
  else if normal = "openai" then .ok .openai
  else .error (.configuration
    s!"Provider '{normal}' not registered. Available providers: ollama, openai")

namespace Settings

def access (s : Settings) : Except Error (Provider × Backend.Access) := do
  let provider ← Provider.ofString s.llmProvider
  let base : Backend.Access :=
    { defaultModel := s.llmModel, timeoutSeconds := s.llmTimeoutSeconds }
  match provider with
  | .ollama => return (provider, { base with baseUrl := some s.ollamaBaseUrl })
  | .openai =>
    let some key := s.openaiApiKey
      | throw (.configuration "OPENAI_API_KEY is required for the openai provider")
    return (provider, { base with apiKey := some key, baseUrl := s.openaiBaseUrl })

inductive Place where
  | server (config : Knowledge.Qdrant.Config)
  | file (path : String)
  deriving DecidableEq, Repr

/-- A server comes before a file; with neither there is no knowledge base. -/
def knowledgePlace? (s : Settings) : Option Place :=
  match s.qdrantUrl, s.knowledgeDb with
  | some url, _ => some (.server ⟨url, s.qdrantCollection, s.embeddingDimension⟩)
  | none, some path => some (.file path)
  | none, none => none

end Settings

def Backend.client {σ : Type} (transport : Http.Transport σ) (clock : StateM σ Nat)
    (provider : Provider) (access : Backend.Access) : Client σ :=
  match provider with
  | .ollama => Ollama.client transport clock access
  | .openai => OpenAI.client transport access

end ClaimAudit
