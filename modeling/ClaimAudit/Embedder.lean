import ClaimAudit.Backend.Client

/-! Turning texts into vectors, one a text and in their order. -/

set_option autoImplicit false

namespace ClaimAudit

structure Embedder (σ : Type) where
  /-- The length of every vector. -/
  dimension : Nat
  /-- How many milliseconds pass until the vectors are there. -/
  delay : List String → Nat := fun _ => 0
  embed : List String → Action σ (List Embedding)

namespace Embedder

variable {σ : Type}

inductive Problem where
  | count (expected : Nat) (model : String) (returned : Nat)
  | dimension (model : String) (returned expected : Nat)
  deriving DecidableEq, Repr

def Problem.error : Problem → Error
  | .count expected model returned =>
    .embedding s!"expected {expected} vectors from {model}, got {returned}"
  | .dimension model returned expected =>
    .embedding s!"model {model} returned a {returned}-dimensional vector, expected {expected}"

def problem? (model : String) (dimension : Nat) (texts : List String) (vectors : List Embedding) :
    Option Problem :=
  if vectors.length ≠ texts.length then some (.count texts.length model vectors.length)
  else
    (vectors.find? fun v => v.length ≠ dimension).map fun v =>
      .dimension model v.length dimension

/-- Embedding by a model of a backend. Without texts the backend is not asked. -/
def ofClient (client : Client σ) (model : String) (dimension : Nat) : Embedder σ where
  dimension
  delay texts := if texts.isEmpty then 0 else client.embedDelay { model := some model, texts }
  embed texts := do
    if texts.isEmpty then return []
    let reply ← client.embed { model := some model, texts }
    match problem? model dimension texts reply.embeddings with
    | some problem => throw problem.error
    | none => return reply.embeddings

def ofTable (known : List (String × Embedding)) (dimension : Nat) : Embedder σ where
  dimension
  embed texts := return texts.map fun text =>
    (known.lookup text).getD (List.replicate dimension .zero)

def within {σ τ : Type} (part : Part σ τ) (embedder : Embedder τ) : Embedder σ where
  dimension := embedder.dimension
  delay := embedder.delay
  embed texts := part.act (embedder.embed texts)

end Embedder

end ClaimAudit
