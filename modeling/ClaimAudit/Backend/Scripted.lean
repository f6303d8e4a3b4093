import ClaimAudit.Backend.Client
import ClaimAudit.Text.Search

/-! A backend that follows a script, for trying out audits without a model.

A reply is chosen by a fragment of the conversation, or taken from a queue. Every
text has a vector computed from its bytes.
-/

set_option autoImplicit false

namespace ClaimAudit.Backend

structure KeyedReply where
  fragment : String
  reply : Except Error String
  delay : Nat

structure Script where
  provider : Provider := .ollama
  keyed : List KeyedReply := []
  /-- The delay of replies from the queue. -/
  delay : Nat := 0
  dimension : Nat := 4
  /-- Every embedding call fails with this error. -/
  embedError : Option Error := none
  /-- The vectors returned whatever the texts are. -/
  embeddings : Option (List Embedding) := none
  healthy : Bool := true

namespace Script

def model : String := "scripted-model"

structure Tape where
  replies : List (Except Error String) := []
  requests : List CompletionRequest := []
  embedded : List EmbeddingRequest := []

def keyedReply? (s : Script) (request : CompletionRequest) : Option KeyedReply :=
  s.keyed.find? fun k => request.messages.any fun m => Text.contains m.content k.fragment

def delayOf (s : Script) (request : CompletionRequest) : Nat :=
  match s.keyedReply? request with
  | some k => k.delay
  | none => s.delay

def exhausted : Error := .api "scripted" "script exhausted"

def next : StateM Tape (Except Error String) := do
  let tape ← get
  match tape.replies with
  | [] => return .error exhausted
  | reply :: rest =>
    set { tape with replies := rest }
    return reply

def complete (s : Script) (request : CompletionRequest) : Action Tape Completion := do
  modify fun tape => { tape with requests := tape.requests ++ [request] }
  let reply ← match s.keyedReply? request with
    | some k => pure k.reply
    | none => (next : StateM Tape _)
  let content ← liftExcept reply
  return { id := "scripted", model, content, stopReason := some .stop, usage := {} }

def vectorOf (dimension : Nat) (text : String) : Embedding :=
  let bytes := text.toUTF8.toList
  (List.range dimension).map fun component =>
    let mine := bytes.zipIdx.filter fun (_, i) => i % dimension = component
    .ofFloat32 (mine.foldl (fun sum (byte, _) => sum + Float32.ofNat byte.toNat) 0)

def embed (s : Script) (request : EmbeddingRequest) : Action Tape EmbeddingReply := do
  modify fun tape => { tape with embedded := tape.embedded ++ [request] }
  if let some error := s.embedError then throw error
  return {
    model := request.model.getD "scripted-embed"
    embeddings := s.embeddings.getD (request.texts.map (vectorOf s.dimension))
    usage := {} }

def client (s : Script) : Client Tape where
  provider := s.provider
  defaultModel := model
  delay := s.delayOf
  complete := s.complete
  embed := s.embed
  healthy := pure s.healthy

end Script

end ClaimAudit.Backend
