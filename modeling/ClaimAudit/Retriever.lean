import ClaimAudit.Embedder
import ClaimAudit.Evidence
import ClaimAudit.Judgment
import ClaimAudit.Knowledge.Store
import ClaimAudit.Session
import ClaimAudit.Text.Blank

/-! Looking up evidence for a question and the claims of its answer. -/

set_option autoImplicit false

universe u

namespace ClaimAudit

structure Retriever (σ : Type) where
  embedder : Embedder σ
  store : Knowledge.Store σ
  limits : Knowledge.Limits := {}

namespace Retriever

variable {σ : Type}

/-- What is searched for: the question unless it is blank, then every claim. -/
def queries (userQuery : String) (claims : List Claim) : List String :=
  (if Text.allBlank userQuery then [] else [userQuery]) ++ claims.map (·.text)

/-- The texts found, without repetitions, in the order of the queries; what an embedding is
and how all searches are made depends on where the look-up runs. -/
def gather {m : Type → Type u} [Monad m] (embed : List String → m (List Embedding))
    (searchAll : List Embedding → m (List (List Knowledge.Hit))) (userQuery : String)
    (claims : List Claim) : m (List String) := do
  let queries := queries userQuery claims
  if queries.isEmpty then return []
  let vectors ← embed queries
  let hits ← searchAll vectors
  return Evidence.unique (hits.flatten.map (·.text))

def evidence (r : Retriever σ) (userQuery : String) (claims : List Claim) :
    Action σ (List String) :=
  gather r.embedder.embed (·.mapM (r.store.search · r.limits)) userQuery claims

def consult (r : Retriever σ) (userQuery : String) (claims : List Claim) :
    Session σ (List String) :=
  gather (fun texts => do Session.wait (r.embedder.delay texts); Session.call (r.embedder.embed texts))
    (·.mapM fun vector => Session.call (r.store.search vector r.limits)) userQuery claims

/-- How long a look-up takes: without queries nothing is embedded. -/
def delay (r : Retriever σ) (userQuery : String) (claims : List Claim) : Nat :=
  if (queries userQuery claims).isEmpty then 0 else r.embedder.delay (queries userQuery claims)

theorem resume_consult (r : Retriever σ) (userQuery : String) (claims : List Claim)
    (p : Progress σ) :
    (r.consult userQuery claims).resume none p =
      (Session.call (r.evidence userQuery claims)).resume none
        { p with clock := p.clock + r.delay userQuery claims } := by
  simp only [consult, evidence, gather, delay]
  by_cases empty : (queries userQuery claims).isEmpty = true
  · simp only [empty, if_true]
    rfl
  · simp only [empty, Bool.false_eq_true, if_false, Session.resume_call_bind, Session.resume_bind,
      Session.resume_call_mapM, Session.resume_wait]
    rfl

end Retriever

end ClaimAudit
