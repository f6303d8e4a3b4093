import ClaimAudit.Chat
import ClaimAudit.Json.Reader
import ClaimAudit.Reply.Excerpt

/-! Splitting an answer into claims.

The model is asked for a JSON array of self-contained statements. A reply that
holds no array leaves the whole answer as one claim.
-/

set_option autoImplicit false

namespace ClaimAudit

namespace Extraction

structure Config where
  /-- The backend's own model if absent. -/
  model : Option String := none
  temperature : Float := 0
  maxTokens : Nat := 1024
  /-- A claim of this many characters or fewer is dropped. -/
  minClaimChars : Nat := 5

def systemPrompt : String := "You extract factual claims from text.

Rules:
1. Each claim states exactly one fact.
2. Each claim must make sense on its own, without the surrounding text.
3. Include implicit claims as well as explicit ones.
4. Never add information that is not in the text.
5. Do not judge whether a claim is true.

Respond with a JSON array of strings and nothing else, for example:
[\"claim one\", \"claim two\"]"

def userPrompt (response : String) : String :=
  "Extract every factual claim from this text:\n\n<text>\n" ++ response ++
    "\n</text>\n\nReturn only the JSON array."

def request (config : Config) (response : String) : CompletionRequest :=
  let base := (({} : CompletionRequest).withSystem systemPrompt).withMessage
    ⟨.user, userPrompt response⟩
  let limited := (base.withTemperature config.temperature).withMaxTokens config.maxTokens
  match config.model with
  | some model => limited.withModel model
  | none => limited

/-- The trimmed text of an array item that is a string of enough characters. -/
def claim? (minChars : Nat) (item : Json.Value) : Option Claim := do
  let text ← item.string?
  let trimmed := Text.trim text
  if minChars < trimmed.length then some ⟨trimmed⟩ else none

/-- The claims in a reply, or nothing if it holds no JSON array. -/
def claims? (config : Config) (content : String) : Option (List Claim) :=
  match Json.Value.read? (Reply.excerpt '[' ']' content.toList) with
  | some (.array items) => some (items.filterMap (claim? config.minClaimChars))
  | _ => none

end Extraction

structure Extraction where
  claims : List Claim
  /-- The reply was unusable and the answer became one claim. -/
  fallback : Bool
  deriving DecidableEq, Repr

def Extraction.ofReply (config : Config) (response content : String) : Extraction :=
  match claims? config content with
  | some claims => ⟨claims, false⟩
  | none => ⟨[⟨response⟩], true⟩

end ClaimAudit
