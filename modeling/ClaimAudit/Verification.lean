import ClaimAudit.Chat
import ClaimAudit.Error
import ClaimAudit.Evidence
import ClaimAudit.Json.Reader
import ClaimAudit.Json.Shown
import ClaimAudit.Reply.Excerpt

/-! Judging one claim against evidence.

The model answers with a JSON object. Its status is required and must say
something; its confidence may be a number, a percentage or absent; its evidence
may have any shape. A reply that cannot be read leaves the claim unknown.
-/

set_option autoImplicit false

namespace ClaimAudit.Verification

structure Config where
  /-- The backend's own model if absent. -/
  model : Option String := none
  temperature : Float := 0
  maxTokens : Nat := 512
  /-- How many claims are judged at once; one means strictly one after another. -/
  maxConcurrency : Nat := 1

/-- At least one claim is judged at a time. -/
def Config.withMaxConcurrency (c : Config) (n : Nat) : Config :=
  { c with maxConcurrency := max n 1 }

def systemPrompt : String := "You check whether a claim is backed by a set of context documents.

Steps:
1. Read every document.
2. Decide whether the documents support the claim, contradict it, or do not address it.
3. Quote the passages your decision rests on.

Labels:
- SUPPORTED: the documents back the claim
- UNSUPPORTED: the documents contradict the claim, or nothing in them backs it
- PARTIALLY_SUPPORTED: some parts of the claim are backed and others are not

Respond with one JSON object and nothing else:
\x7b
  \"status\": \"SUPPORTED\" | \"UNSUPPORTED\" | \"PARTIALLY_SUPPORTED\",
  \"confidence\": 0.95,
  \"evidence\": [\"quoted passage\"],
  \"reasoning\": \"one sentence\"
\x7d"

def userPrompt (claim : Claim) (evidence : List String) : String :=
  "Check this claim against the context:\n\n<claim>\n" ++ claim.text ++
    "\n</claim>\n\n<context>\n" ++ Evidence.listing evidence ++
    "\n</context>\n\nReturn only the JSON object."

def request (config : Config) (evidence : List String) (claim : Claim) : CompletionRequest :=
  let base := (({} : CompletionRequest).withSystem systemPrompt).withMessage
    ⟨.user, userPrompt claim evidence⟩
  let limited := (base.withTemperature config.temperature).withMaxTokens config.maxTokens
  match config.model with
  | some model => limited.withModel model
  | none => limited

inductive Problem where
  | unreadable
  | notAnObject
  | noStatus
  | unfamiliarStatus (spelling : String)
  | undecided
  | nonNumericConfidence (given : Json.Value)

def Problem.error : Problem → Error
  | .unreadable => .serialization "the reply holds no JSON value"
  | .notAnObject => .model "verification is not a JSON object"
  | .noStatus => .model "verification has no status"
  | .unfamiliarStatus spelling => Error.unfamiliarStatus spelling
  | .undecided => .model "model returned UNKNOWN status"
  | .nonNumericConfidence given =>
    .model ("non-numeric confidence: Some(" ++ String.ofList given.shown ++ ")")

def defaultConfidence : Float := 0.5

def dropPercent (cs : List Char) : List Char := (cs.reverse.dropWhile (· = '%')).reverse

def statedNumber? : Json.Value → Option Float
  | .number n => some n.toFloat
  | .string s => do
    let numeral := Text.trimChars (dropPercent (Text.trimChars s.toList))
    let decimal ← Number.Decimal.ofChars? numeral
    let x := decimal.toFloat
    if x.isFinite then some x else none
  | _ => none

/-- A number above one and up to a hundred is a percentage. -/
def scaled (x : Float) : Float :=
  unitInterval (if 1 < x && x ≤ 100 then x / 100 else x)

def confidence (stated : Option Json.Value) : Except Problem Float :=
  match stated with
  | none => .ok defaultConfidence
  | some .null => .ok defaultConfidence
  | some given =>
    match statedNumber? given with
    | some x => .ok (scaled x)
    | none => .error (.nonNumericConfidence given)

/-- The strings of an array, or one string that is not blank, or nothing. -/
def quotes : Option Json.Value → List String
  | some (.array items) => items.filterMap Json.Value.string?
  | some (.string s) => if Text.allBlank s then [] else [s]
  | _ => []

def judgedStatus (members : Json.Members) : Except Problem Status :=
  match (Json.Members.get? "status" members).bind Json.Value.string? with
  | none => .error .noStatus
  | some spelling =>
    match Status.ofString? spelling with
    | none => .error (.unfamiliarStatus spelling)
    | some .unknown => .error .undecided
    | some status => .ok status

def ofValue (claim : Claim) : Json.Value → Except Problem (Judgment Float)
  | .object members => do
    let status ← judgedStatus members
    let confidence ← confidence (Json.Members.get? "confidence" members)
    return .of claim status confidence (quotes (Json.Members.get? "evidence" members))
  | _ => .error .notAnObject

def ofReply (claim : Claim) (content : String) : Except Problem (Judgment Float) :=
  match Json.Value.read? (Reply.excerpt '{' '}' content.toList) with
  | some value => ofValue claim value
  | none => .error .unreadable

def judged (claim : Claim) (reply : Except Error Completion) : Judgment Float :=
  match reply with
  | .error _ => .unknown claim
  | .ok completion =>
    match ofReply claim completion.content with
    | .ok judgment => judgment
    | .error _ => .unknown claim

end ClaimAudit.Verification
