import ClaimAudit.Digest.Sha256
import ClaimAudit.Knowledge.Batch
import ClaimAudit.Uuid

/-! Identifiers of stored texts, search hits and their ranking. -/

set_option autoImplicit false

namespace ClaimAudit.Knowledge

open ClaimAudit.Number (Single)

/-- The identifier of a text: equal texts have one, wherever they are stored. -/
def pointId (text : String) : Uuid :=
  .ofRandomBytes ((Digest.Sha256.digest text.toUTF8.toList).take 16)

structure Hit where
  id : String
  text : String
  /-- Similarity; a higher one is closer. -/
  score : Single
  metadata : Metadata

structure Limits where
  /-- How many hits at most. -/
  topK : Nat := 3
  /-- The least score of a hit. -/
  threshold : Single := .ofFloat32 0.3
  deriving DecidableEq, Repr

namespace Hit

def admitted (threshold : Single) (hit : Hit) : Bool := threshold.atMost hit.score

def before (a b : Hit) : Bool := b.score.place ≤ a.score.place

/-- The best hits that reach the threshold. Hits of one score keep their order. -/
def rank (limits : Limits) (hits : List Hit) : List Hit :=
  ((hits.filter (admitted limits.threshold)).mergeSort before).take limits.topK

theorem before_trans (a b c : Hit) (first : a.before b) (second : b.before c) : a.before c :=
  decide_eq_true (Int.le_trans (of_decide_eq_true second) (of_decide_eq_true first))

theorem before_total (a b : Hit) : (a.before b || b.before a) = true := by
  rcases Int.le_total b.score.place a.score.place with higher | lower
  · simp [before, higher]
  · simp [before, lower]

end Hit

end ClaimAudit.Knowledge
