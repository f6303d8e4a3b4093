import ClaimAudit.Stage

/-! What can go wrong in an audit, and the text of each failure. -/

set_option autoImplicit false

namespace ClaimAudit

inductive Error where
  /-- The inference service refused or could not be reached. -/
  | api (provider message : String)
  /-- A reply of the model cannot be used. -/
  | model (message : String)
  | embedding (message : String)
  | vectorStore (message : String)
  | storage (message : String)
  | serialization (message : String)
  | configuration (message : String)
  | timeout (milliseconds : Nat)
  /-- A stage gave up after its own fallbacks. -/
  | staged (stage : Stage) (message : String)
  | notFound (message : String)
  | internal (message : String)
  deriving DecidableEq, Repr

namespace Error

def message : Error → String
  | .api provider message => s!"LLM API error: {provider} - {message}"
  | .model message => s!"LLM error: {message}"
  | .embedding message => s!"Embedding error: {message}"
  | .vectorStore message => s!"Vector store error: {message}"
  | .storage message => s!"Storage error: {message}"
  | .serialization message => s!"Serialization error: {message}"
  | .configuration message => s!"Configuration error: {message}"
  | .timeout milliseconds => s!"Operation timed out after {milliseconds}ms"
  | .staged stage message => s!"Audit stage {stage.name} failed: {message}"
  | .notFound message => s!"Not found: {message}"
  | .internal message => s!"Internal error: {message}"

def unfamiliarStatus (spelling : String) : Error :=
  .internal s!"Unknown verification status: {spelling}"

/-- Blame a stage. An error that already blames one keeps it. -/
def atStage (blamed : Stage) (error : Error) : Error :=
  match error with
  | .staged stage message => .staged stage message
  | error => .staged blamed error.message

def failedStage? : Error → Option Stage
  | .staged stage _ => some stage
  | _ => none

def attributed (running : Stage) (error : Error) : Stage × String :=
  match error with
  | .staged stage message => (stage, message)
  | error => (running, error.message)

theorem ok_of_bind {α β : Type} {first : Except Error α} {next : α → Except Error β} {b : β}
    (made : first >>= next = .ok b) : ∃ a, first = .ok a ∧ next a = .ok b := by
  cases first with
  | error => cases made
  | ok a => exact ⟨a, rfl, made⟩

end Error

end ClaimAudit
