import ClaimAudit.Backend.Access
import ClaimAudit.Backend.Wire

/-! A local model runtime. -/

set_option autoImplicit false

namespace ClaimAudit.Backend.Ollama

def provider : Provider := .ollama

def defaultAddress : String := "http://localhost:11434"

def address (access : Access) : String := access.address defaultAddress

variable {σ : Type}

def post {α : Type} (transport : Http.Transport σ) (access : Access) (decode : Json.Decoder α)
    (path : String) (body : Json.Value) : Action σ α := do
  let url := address access ++ path
  match ← (transport { method := .post, url, body := some body } : StateM σ _) with
  | .error reason =>
    throw (.api provider.name s!"Cannot connect to Ollama at {address access}: {reason}")
  | .ok response =>
    let text ← liftExcept (Wire.textOf response)
    if !response.isSuccess then
      throw (.api provider.name (Wire.refusal response text))
    match Json.Decode.text decode text with
    | some reply => return reply
    | none => throw (.model s!"Failed to parse Ollama response: {Wire.unreadable}")

def completionBody (access : Access) (request : CompletionRequest) : Json.Value := .object
  [("model", .string (request.model.getD access.defaultModel)),
   ("messages", Wire.messagesJson request),
   ("stream", .bool false),
   ("options", .object
     (Wire.present "temperature" (request.temperature.map .ofFloat) ++
      Wire.present "num_predict" (request.maxTokens.map .ofNat)))]

def decodeCompletion (id : String) : Json.Decoder Completion := fun source tree => do
  let f ← Json.Decode.fields
    ["model", "message", "done_reason", "prompt_eval_count", "eval_count"] source tree
  let message ← f.orElse "message" none (Json.Decode.optional Wire.decodeContent)
  let reason ← f.orElse "done_reason" none (Json.Decode.optional Json.Decode.string)
  return { id
           model := ← f.required "model" Json.Decode.string
           content := message.getD ""
           stopReason := some ((reason.map StopReason.ofBackend).getD .stop)
           usage :=
             { input := ← f.orElse "prompt_eval_count" 0 Json.Decode.word64
               output := ← f.orElse "eval_count" 0 Json.Decode.word64 } }

def decodeEmbeddings : Json.Decoder EmbeddingReply := fun source tree => do
  let f ← Json.Decode.fields ["model", "embeddings", "prompt_eval_count"] source tree
  return { model := ← f.required "model" Json.Decode.string
           embeddings := ← f.required "embeddings" (Json.Decode.list Wire.decodeVector)
           usage := { input := ← f.orElse "prompt_eval_count" 0 Json.Decode.word64 } }

def decodeModelNames : Json.Decoder (List String) := fun source tree => do
  let f ← Json.Decode.fields ["models"] source tree
  f.orElse "models" [] (Json.Decode.list fun source tree => do
    let f ← Json.Decode.fields ["name"] source tree
    f.required "name" Json.Decode.string)

/-- Whether a held model is the wanted one, under any tag. -/
def serves (wanted held : String) : Bool :=
  match Text.dropPrefix wanted.toList held.toList with
  | some rest => rest = [] || rest.head? = some ':'
  | none => false

def healthy (transport : Http.Transport σ) (access : Access) : StateM σ Bool := do
  match ← transport { method := .get, url := address access ++ "/api/tags" } with
  | .error _ => return false
  | .ok response =>
    let names? := do
      guard response.isSuccess
      let text ← response.body.toOption.bind Text.Utf8.strict?
      Json.Decode.text decodeModelNames text
    return (names?.getD []).any (serves access.defaultModel)

/-- The clock gives the milliseconds that tell one completion from another. -/
def client (transport : Http.Transport σ) (clock : StateM σ Nat) (access : Access) : Client σ where
  provider
  defaultModel := access.defaultModel
  complete request := do
    let milliseconds ← (clock : StateM σ _)
    post transport access (decodeCompletion s!"ollama-{milliseconds}") "/api/chat"
      (completionBody access request)
  embed request := post transport access decodeEmbeddings "/api/embed"
    (Wire.embeddingBody (request.model.getD access.defaultModel) request.texts)
  healthy := healthy transport access

end ClaimAudit.Backend.Ollama
