import ClaimAudit.Explanation

/-! Everything that is concluded from the judgments of an answer. -/

set_option autoImplicit false

namespace ClaimAudit

structure Assessment where
  faithfulness : Float
  trigger : Option (Trigger Float)
  explanation : String
  deriving DecidableEq

namespace Assessment

def hallucination (a : Assessment) : Bool := a.trigger.isSome

def of (scoring : Scoring Float) (judgments : List (Judgment Float)) : Assessment :=
  let faithfulness := scoring.faithfulness judgments
  { faithfulness
    trigger := scoring.trigger? judgments
    explanation := Explanation.text scoring faithfulness judgments }

end Assessment

end ClaimAudit
