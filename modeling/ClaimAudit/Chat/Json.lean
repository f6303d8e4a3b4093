import ClaimAudit.Chat
import ClaimAudit.Json.Decode

/-! The JSON form of conversations with a backend. -/

set_option autoImplicit false

namespace ClaimAudit

open ClaimAudit.Json (Value Decoder)

/-- The written name of a provider breaks `openai` at its inner capitals. -/
def Provider.jsonName : Provider → String
  | .ollama => "ollama"
  | .openai => "open_a_i"

def Provider.json (p : Provider) : Value := .string p.jsonName

def Provider.decode : Decoder Provider :=
  Json.Decode.choice ([Provider.ollama, .openai].map fun p => (p.jsonName, p))

def Role.json (r : Role) : Value := .string r.name

def Role.decode : Decoder Role := Json.Decode.choice (Role.all.map fun r => (r.name, r))

def Message.json (m : Message) : Value := .object
  [("role", m.role.json), ("content", .string m.content)]

def Message.decode : Decoder Message := fun source tree => do
  let f ← Json.Decode.fields ["role", "content"] source tree
  return { role := ← f.required "role" Role.decode
           content := ← f.required "content" Json.Decode.string }

def CompletionRequest.json (r : CompletionRequest) : Value := .object
  [("model", .ofOption .string r.model),
   ("system", .ofOption .string r.system),
   ("messages", .array (r.messages.map Message.json)),
   ("max_tokens", .ofOption .ofNat r.maxTokens),
   ("temperature", .ofOption .ofFloat r.temperature)]

def CompletionRequest.decode : Decoder CompletionRequest := fun source tree => do
  let f ← Json.Decode.fields ["model", "system", "messages", "max_tokens", "temperature"]
    source tree
  return { model := ← f.nullable "model" Json.Decode.string
           system := ← f.nullable "system" Json.Decode.string
           messages := ← f.required "messages" (Json.Decode.list Message.decode)
           maxTokens := ← f.nullable "max_tokens" (Json.Decode.below 0x100000000)
           temperature := ← f.nullable "temperature" Json.Decode.float }

def StopReason.json (r : StopReason) : Value := .string r.name

def StopReason.decode : Decoder StopReason :=
  Json.Decode.choice (StopReason.all.map fun r => (r.name, r))

def TokenUsage.json (u : TokenUsage) : Value := .object
  [("input_tokens", .ofNat u.input), ("output_tokens", .ofNat u.output)]

def TokenUsage.decode : Decoder TokenUsage := fun source tree => do
  let f ← Json.Decode.fields ["input_tokens", "output_tokens"] source tree
  return { input := ← f.required "input_tokens" Json.Decode.word64
           output := ← f.required "output_tokens" Json.Decode.word64 }

def EmbeddingRequest.json (r : EmbeddingRequest) : Value := .object
  [("model", .ofOption .string r.model), ("texts", .strings r.texts)]

def EmbeddingRequest.decode : Decoder EmbeddingRequest := fun source tree => do
  let f ← Json.Decode.fields ["model", "texts"] source tree
  return { model := ← f.nullable "model" Json.Decode.string
           texts := ← f.required "texts" (Json.Decode.list Json.Decode.string) }

end ClaimAudit
