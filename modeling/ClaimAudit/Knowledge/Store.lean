import ClaimAudit.Action
import ClaimAudit.Knowledge.Hit

/-! The interface of a knowledge base. -/

set_option autoImplicit false

namespace ClaimAudit.Knowledge

/-- A knowledge base whose contents are part of the state `σ`. -/
structure Store (σ : Type) where
  /-- Create the collection if there is none. -/
  ensure : Action σ Unit
  /-- Write every entry of a batch, over older ones of the same text; how many. -/
  upsert : Batch → Action σ Nat
  /-- The closest entries, best first. -/
  search : Embedding → Limits → Action σ (List Hit)
  count : Action σ Nat
  healthy : StateM σ Bool

namespace Store

variable {σ τ : Type}

def within (part : Part σ τ) (store : Store τ) : Store σ where
  ensure := part.act store.ensure
  upsert batch := part.act (store.upsert batch)
  search vector limits := part.act (store.search vector limits)
  count := part.act store.count
  healthy := part.run store.healthy

inductive Operation where
  | ensure
  | upsert
  | search
  | count
  | health
  deriving DecidableEq, Repr

/-- A store in which some calls fail with an error; a failed health check is negative. -/
def failing (operations : List Operation) (error : Error) (store : Store σ) : Store σ where
  ensure := if .ensure ∈ operations then throw error else store.ensure
  upsert batch := if .upsert ∈ operations then throw error else store.upsert batch
  search vector limits := if .search ∈ operations then throw error else store.search vector limits
  count := if .count ∈ operations then throw error else store.count
  healthy := if .health ∈ operations then pure false else store.healthy

/-- Whether audits can use the store: its collection exists or can be created, and
its entries can be counted. -/
def prepare (store : Store σ) : StateM σ Bool := do
  let outcome ← (do store.ensure; discard store.count : Action σ Unit).run
  return outcome.isOk

end Store

end ClaimAudit.Knowledge
