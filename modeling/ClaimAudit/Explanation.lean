import ClaimAudit.Number.Fixed
import ClaimAudit.Score
import ClaimAudit.Text.Blank

/-! The explanation of a score: the score itself, how many claims have each status,
and the first unsupported claims. -/

set_option autoImplicit false

namespace ClaimAudit.Explanation

def mark : Status → String
  | .supported => "✓"
  | .partiallySupported => "⚠"
  | .unsupported => "✗"
  | .unknown => "?"

/-- A share in percent; of nothing it is zero. -/
def percent (count total : Nat) : Float :=
  if total = 0 then 0 else Float.ofNat count / Float.ofNat total * 100

def countLine {R : Type} (judgments : List (Judgment R)) (status : Status) : String :=
  let count := countStatus status judgments
  let share := Number.fixed 1 (percent count judgments.length)
  s!"  {mark status} {status.label}: {count} ({share}%)"

def shortened (limit : Nat) (text : String) : String :=
  let cs := text.toList
  if cs.length ≤ limit then text else String.ofList (cs.take limit ++ ['.', '.', '.'])

def unsupportedClaims {R : Type} (judgments : List (Judgment R)) : List Claim :=
  (judgments.filter fun j => j.status = .unsupported).map (·.claim)

def exampleLine (maxChars : Nat) (claim : Claim) (index : Nat) : String :=
  s!"  {index + 1}. {shortened maxChars claim.text}"

def exampleLines (maxExamples maxChars : Nat) (claims : List Claim) : List String :=
  if claims.isEmpty then []
  else
    let listed := (claims.take maxExamples).zipIdx.map fun (claim, index) =>
      exampleLine maxChars claim index
    let more := claims.length - maxExamples
    ["", "Unsupported Claims:"] ++ listed ++
      (if maxExamples < claims.length then [s!"  ... and {more} more"] else [])

def lines {R : Type} (scoring : Scoring R) (score : Float) (judgments : List (Judgment R)) :
    List String :=
  [s!"Faithfulness Score: {Number.fixed 2 score}/1.00", "",
    s!"Total Claims Analyzed: {judgments.length}"] ++
    Status.all.map (countLine judgments) ++
    exampleLines scoring.maxExamples scoring.maxExampleChars (unsupportedClaims judgments)

def text {R : Type} (scoring : Scoring R) (score : Float) (judgments : List (Judgment R)) :
    String :=
  String.ofList (Text.trimEnd ("\n".intercalate (lines scoring score judgments)).toList)

end ClaimAudit.Explanation
