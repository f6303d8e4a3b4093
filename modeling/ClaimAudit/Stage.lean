/-! The stages of an audit and their order. -/

set_option autoImplicit false

namespace ClaimAudit

inductive Stage where
  /-- Split the answer into claims. -/
  | decompose
  /-- Look up evidence in the knowledge base. -/
  | retrieve
  /-- Judge each claim against the evidence. -/
  | verify
  /-- Reduce the judgments to a score. -/
  | score
  | done
  deriving DecidableEq, Repr

namespace Stage

def all : List Stage := [.decompose, .retrieve, .verify, .score, .done]

def name : Stage → String
  | .decompose => "decompose"
  | .retrieve => "retrieve"
  | .verify => "verify"
  | .score => "score"
  | .done => "done"

/-- The stage that follows. Evidence is looked up only in audits with retrieval. -/
def next (retrieval : Bool) : Stage → Stage
  | .decompose => if retrieval then .retrieve else .verify
  | .retrieve => .verify
  | .verify => .score
  | .score | .done => .done

def stepsLeft : Stage → Nat
  | .decompose => 4
  | .retrieve => 3
  | .verify => 2
  | .score => 1
  | .done => 0

theorem stepsLeft_next_lt {s : Stage} (retrieval : Bool) (unfinished : s ≠ .done) :
    (s.next retrieval).stepsLeft < s.stepsLeft := by
  cases s with
  | done => exact absurd rfl unfinished
  | decompose | retrieve | verify | score => cases retrieval <;> decide

end Stage

end ClaimAudit
