import ClaimAudit.Action
import ClaimAudit.Chat
import ClaimAudit.Embedding

/-! The interface of an inference backend. -/

set_option autoImplicit false

namespace ClaimAudit

structure EmbeddingReply where
  model : String
  /-- One vector a text, in the order of the texts. -/
  embeddings : List Embedding
  usage : TokenUsage
  deriving DecidableEq

structure Exchange where
  request : CompletionRequest
  reply : Except Error Completion

/-- A backend whose condition is part of the state `σ`. -/
structure Client (σ : Type) where
  provider : Provider
  /-- The model of requests that name none. -/
  defaultModel : String
  /-- How many milliseconds pass until a request is answered. -/
  delay : CompletionRequest → Nat := fun _ => 0
  /-- How many milliseconds pass until texts are embedded. -/
  embedDelay : EmbeddingRequest → Nat := fun _ => 0
  complete : CompletionRequest → Action σ Completion
  embed : EmbeddingRequest → Action σ EmbeddingReply
  /-- Whether the backend can be reached and serves the model. -/
  healthy : StateM σ Bool

def Client.within {σ τ : Type} (part : Part σ τ) (client : Client τ) : Client σ where
  provider := client.provider
  defaultModel := client.defaultModel
  delay := client.delay
  embedDelay := client.embedDelay
  complete request := part.act (client.complete request)
  embed request := part.act (client.embed request)
  healthy := part.run client.healthy

end ClaimAudit
