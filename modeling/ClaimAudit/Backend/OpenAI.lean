import ClaimAudit.Backend.Access
import ClaimAudit.Backend.Wire

/-! A hosted model service, and servers that speak its protocol. -/

set_option autoImplicit false

namespace ClaimAudit.Backend.OpenAI

def provider : Provider := .openai

def defaultAddress : String := "https://api.openai.com"

def defaultEmbeddingModel : String := "text-embedding-3-small"

def address (access : Access) : String := access.address defaultAddress

def decodeError : Json.Decoder String := fun source tree => do
  let f ← Json.Decode.fields ["error"] source tree
  f.required "error" fun source tree => do
    let detail ← Json.Decode.fields ["message"] source tree
    detail.required "message" Json.Decode.string

variable {σ : Type}

def post {α : Type} (transport : Http.Transport σ) (access : Access) (decode : Json.Decoder α)
    (path : String) (body : Json.Value) : Action σ α := do
  let url := address access ++ path
  let request : Http.Request :=
    { method := .post, url, bearer := access.apiKey, body := some body }
  match ← (transport request : StateM σ _) with
  | .error reason => throw (.api provider.name s!"HTTP request failed: {reason}")
  | .ok response =>
    let text ← liftExcept (Wire.textOf response)
    if !response.isSuccess then
      match Json.Decode.text decodeError text with
      | some message => throw (.api provider.name message)
      | none => throw (.api provider.name (Wire.refusal response text))
    match Json.Decode.text decode text with
    | some reply => return reply
    | none => throw (.model s!"Failed to parse OpenAI response: {Wire.unreadable}")

def completionBody (access : Access) (request : CompletionRequest) : Json.Value := .object
  ([("model", .string (request.model.getD access.defaultModel)),
    ("messages", Wire.messagesJson request)] ++
    Wire.present "max_tokens" (request.maxTokens.map .ofNat) ++
    Wire.present "temperature" (request.temperature.map .ofFloat))

structure Choice where
  content : String
  finishReason : Option String
  deriving DecidableEq, Repr

def Choice.decode : Json.Decoder Choice := fun source tree => do
  let f ← Json.Decode.fields ["message", "finish_reason"] source tree
  return { content := ← f.required "message" Wire.decodeContent
           finishReason := ← f.nullable "finish_reason" Json.Decode.string }

def decodeUsage : Json.Decoder TokenUsage := fun source tree => do
  let f ← Json.Decode.fields ["prompt_tokens", "completion_tokens"] source tree
  return { input := ← f.required "prompt_tokens" Json.Decode.word64
           output := ← f.orElse "completion_tokens" 0 Json.Decode.word64 }

structure Reply where
  id : String
  model : String
  choices : List Choice
  usage : Option TokenUsage
  deriving DecidableEq, Repr

def Reply.decode : Json.Decoder Reply := fun source tree => do
  let f ← Json.Decode.fields ["id", "model", "choices", "usage"] source tree
  return { id := ← f.required "id" Json.Decode.string
           model := ← f.required "model" Json.Decode.string
           choices := ← f.required "choices" (Json.Decode.list Choice.decode)
           usage := ← f.orElse "usage" none (Json.Decode.optional decodeUsage) }

def Reply.completion (r : Reply) : Except Error Completion :=
  match r.choices with
  | [] => .error (.model "No choices in response")
  | choice :: _ => .ok
    { id := r.id
      model := r.model
      content := choice.content
      stopReason := choice.finishReason.map StopReason.ofBackend
      usage := r.usage.getD {} }

/-- A vector and the position of its text; without one the position is zero. -/
def decodeLabelled : Json.Decoder (Nat × Embedding) := fun source tree => do
  let f ← Json.Decode.fields ["index", "embedding"] source tree
  let index ← f.orElse "index" 0 Json.Decode.word64
  return (index, ← f.required "embedding" Wire.decodeVector)

/-- The vectors in the order of their positions; equal positions keep their order. -/
def inOrder (labelled : List (Nat × Embedding)) : List Embedding :=
  (labelled.mergeSort fun a b => a.1 ≤ b.1).map (·.2)

def decodeEmbeddings : Json.Decoder EmbeddingReply := fun source tree => do
  let f ← Json.Decode.fields ["model", "data", "usage"] source tree
  let usage ← f.orElse "usage" none (Json.Decode.optional decodeUsage)
  return { model := ← f.required "model" Json.Decode.string
           embeddings := inOrder (← f.required "data" (Json.Decode.list decodeLabelled))
           usage := { input := (usage.map (·.input)).getD 0 } }

def client (transport : Http.Transport σ) (access : Access) : Client σ where
  provider
  defaultModel := access.defaultModel
  complete request := do
    let reply ← post transport access Reply.decode "/v1/chat/completions"
      (completionBody access request)
    liftExcept reply.completion
  embed request := post transport access decodeEmbeddings "/v1/embeddings"
    (Wire.embeddingBody (request.model.getD defaultEmbeddingModel) request.texts)
  healthy := do
    match ← transport
        { method := .get, url := address access ++ "/v1/models", bearer := access.apiKey } with
    | .ok response => return response.isSuccess
    | .error _ => return false

end ClaimAudit.Backend.OpenAI
