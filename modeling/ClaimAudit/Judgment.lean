import ClaimAudit.Status

/-! Claims, and what was judged about them. -/

set_option autoImplicit false

namespace ClaimAudit

structure Claim where
  text : String
  deriving DecidableEq, Repr

/-- A number moved into the unit interval. One that does not compare stays as it is. -/
def unitInterval {R : Type} [OfNat R 0] [OfNat R 1] [LT R] [DecidableLT R] (x : R) : R :=
  let x := if x < 0 then 0 else x
  if 1 < x then 1 else x

/-- The judgment of one claim, with the confidence measured in `R`. -/
structure Judgment (R : Type) where
  claim : Claim
  status : Status
  /-- Confidence in the status. -/
  confidence : R
  /-- Quotes or paraphrases that back the judgment. -/
  evidence : List String := []
  deriving DecidableEq

namespace Judgment

def of (claim : Claim) (status : Status) (confidence : Float) (evidence : List String := []) :
    Judgment Float :=
  { claim, status, confidence := unitInterval confidence, evidence }

def unknown (claim : Claim) : Judgment Float := .of claim .unknown 0

end Judgment

def countStatus {R : Type} (status : Status) (judgments : List (Judgment R)) : Nat :=
  judgments.countP fun j => j.status = status

end ClaimAudit
