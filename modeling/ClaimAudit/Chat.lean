import ClaimAudit.Judgment

/-! Conversations with an inference backend: completions and embeddings. -/

set_option autoImplicit false

namespace ClaimAudit

inductive Provider where
  /-- A local runtime. -/
  | ollama
  /-- A hosted service, or any server that speaks its protocol. -/
  | openai
  deriving DecidableEq, Repr

def Provider.name : Provider → String
  | .ollama => "ollama"
  | .openai => "openai"

inductive Role where
  | system
  | user
  | assistant
  deriving DecidableEq, Repr

namespace Role

def all : List Role := [.system, .user, .assistant]

def name : Role → String
  | .system => "system"
  | .user => "user"
  | .assistant => "assistant"

end Role

structure Message where
  role : Role
  content : String
  deriving DecidableEq, Repr

structure CompletionRequest where
  /-- The backend's own model if absent. -/
  model : Option String := none
  system : Option String := none
  messages : List Message := []
  maxTokens : Option Nat := none
  temperature : Option Float := none
  deriving DecidableEq

namespace CompletionRequest

def withModel (r : CompletionRequest) (model : String) : CompletionRequest :=
  { r with model := some model }

def withSystem (r : CompletionRequest) (system : String) : CompletionRequest :=
  { r with system := some system }

def withMessage (r : CompletionRequest) (message : Message) : CompletionRequest :=
  { r with messages := r.messages ++ [message] }

def withMaxTokens (r : CompletionRequest) (maxTokens : Nat) : CompletionRequest :=
  { r with maxTokens := some maxTokens }

def withTemperature (r : CompletionRequest) (temperature : Float) : CompletionRequest :=
  { r with temperature := some (unitInterval temperature) }

/-- One list of messages for backends without a field for the system prompt: the
prompt comes first, as a message of the system. -/
def flattened (r : CompletionRequest) : List Message :=
  match r.system with
  | some prompt => ⟨.system, prompt⟩ :: r.messages
  | none => r.messages

end CompletionRequest

inductive StopReason where
  | stop
  | length
  | error
  deriving DecidableEq, Repr

namespace StopReason

def all : List StopReason := [.stop, .length, .error]

def name : StopReason → String
  | .stop => "stop"
  | .length => "length"
  | .error => "error"

/-- Backends name their reasons differently; an unfamiliar one is an ordinary stop. -/
def ofBackend (reason : String) : StopReason :=
  if reason = "length" ∨ reason = "max_tokens" then .length
  else if reason = "error" then .error
  else .stop

end StopReason

structure TokenUsage where
  input : Nat := 0
  output : Nat := 0
  deriving DecidableEq, Repr

/-- The counts added as words of 64 bits, where the sum starts again at zero. -/
def TokenUsage.total (u : TokenUsage) : Nat := (UInt64.ofNat u.input + UInt64.ofNat u.output).toNat

structure Completion where
  id : String
  model : String
  content : String
  stopReason : Option StopReason
  usage : TokenUsage
  deriving DecidableEq

def Completion.finishReason (c : Completion) : String :=
  (c.stopReason.map StopReason.name).getD "unknown"

structure EmbeddingRequest where
  model : Option String := none
  texts : List String
  deriving DecidableEq, Repr

end ClaimAudit
