import ClaimAudit.Knowledge.Keyed
import ClaimAudit.Knowledge.Store

/-! A knowledge base in memory. Its points have no order that a caller may rely on. -/

set_option autoImplicit false

namespace ClaimAudit.Knowledge.Memory

abbrev Points := List (Uuid × Entry)

def put (id : Uuid) (entry : Entry) : Points → Points :=
  Knowledge.put (·.1) (fun _ => (id, entry)) (id, entry)

def putAll (entries : List Entry) (points : Points) : Points :=
  entries.foldl (fun points entry => put (pointId entry.text) entry points) points

def hit (vector : Embedding) (id : Uuid) (entry : Entry) : Hit :=
  ⟨id.toString, entry.text, Embedding.cosine vector entry.vector, entry.metadata⟩

def search (points : Points) (vector : Embedding) (limits : Limits) : List Hit :=
  Hit.rank limits (points.map fun (id, entry) => hit vector id entry)

def store : Store Points where
  ensure := pure ()
  upsert batch := do
    let entries ← liftExcept batch.entries
    modify (putAll entries)
    return batch.texts.length
  search vector limits := return search (← get) vector limits
  count := return (← get).length
  healthy := pure true

end ClaimAudit.Knowledge.Memory
