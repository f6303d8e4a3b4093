import ClaimAudit.Backend.Ollama
import ClaimAudit.Backend.OpenAI

/-! What a client makes of a response.

Both backends read a response alike and differ in the errors they report: a request succeeds exactly
if the response is one of success and its text is a reply.
-/

set_option autoImplicit false

namespace ClaimAudit.Backend

namespace Wire

variable {α : Type} {refused : String → Error} {unread : Error} {decode : Json.Decoder α}
  {response : Http.Response} {reply : α}

def outcome (refused : String → Error) (unread : Error) (decode : Json.Decoder α)
    (response : Http.Response) : Except Error α := do
  let text ← textOf response
  if !response.isSuccess then throw (refused text)
  match Json.Decode.text decode text with
  | some reply => return reply
  | none => throw unread

structure Answers (decode : Json.Decoder α) (response : Http.Response) (reply : α) : Prop where
  success : response.isSuccess = true
  read : ∃ text, response.text = .ok text ∧ Json.Decode.text decode text = some reply

theorem textOf_eq_ok_iff {text : String} :
    textOf response = .ok text ↔ response.text = .ok text := by
  rw [textOf]
  cases response.text with
  | error => exact iff_of_false nofun nofun
  | ok => constructor <;> rintro ⟨⟩ <;> rfl

theorem outcome_eq_ok_iff :
    outcome refused unread decode response = .ok reply ↔ Answers decode response reply := by
  constructor
  · intro made
    obtain ⟨text, legible, made⟩ := Error.ok_of_bind made
    cases success : response.isSuccess <;> rw [success] at made
    · cases made
    cases read : Json.Decode.text decode text with
    | none =>
      rw [read] at made
      cases made
    | some other =>
      rw [read] at made
      cases made
      exact ⟨success, text, textOf_eq_ok_iff.mp legible, read⟩
  · rintro ⟨success, text, legible, read⟩
    rw [outcome, textOf_eq_ok_iff.mpr legible, success]
    show (match Json.Decode.text decode text with
      | some reply => .ok reply
      | none => .error unread) = Except.ok reply
    rw [read]

theorem Answers.decoded (answers : Answers decode response reply) :
    ∃ tree, decode {} tree = some reply := by
  obtain ⟨text, _, read⟩ := answers.read
  obtain ⟨tree, _, read⟩ := Option.bind_eq_some_iff.mp read
  exact ⟨tree, read⟩

def carrying (text : String) : Http.Response := ⟨200, .ok text.toUTF8.data.toList⟩

theorem answers_carrying {text : String} (read : Json.Decode.text decode text = some reply) :
    Answers decode (carrying text) reply :=
  ⟨rfl, text, congrArg Except.ok (Text.Utf8.lossy_toUTF8 text), read⟩

end Wire

variable {σ α : Type} {transport : Http.Transport σ} {access : Access} {decode : Json.Decoder α}
  {path : String} {body : Json.Value} {s : σ}

namespace Ollama

def refused (response : Http.Response) (text : String) : Error :=
  .api provider.name (Wire.refusal response text)

theorem run_post_eq :
    (post transport access decode path body).run s =
      match transport { method := .post, url := address access ++ path, body := some body } s with
      | (.error reason, t) => (.error (.api provider.name
          s!"Cannot connect to Ollama at {address access}: {reason}"), t)
      | (.ok response, t) => (Wire.outcome (refused response)
          (.model s!"Failed to parse Ollama response: {Wire.unreadable}") decode response, t) := by
  rw [post, Action.run_bind, Action.run_liftM]
  rcases transport { method := .post, url := address access ++ path, body := some body } s with
    ⟨reason | response, t⟩
  · rfl
  simp only [Action.run_bind, Action.run_liftExcept, Wire.outcome]
  cases Wire.textOf response with
  | error => rfl
  | ok text =>
    cases response.isSuccess
    · rfl
    · simp only [Bool.not_true, Bool.false_eq_true, if_false, bind, Except.bind]
      cases Json.Decode.text decode text <;> rfl

end Ollama

namespace OpenAI

/-- How a response without success is reported: by the message of its body, if it has one. -/
def refused (response : Http.Response) (text : String) : Error :=
  .api provider.name ((Json.Decode.text decodeError text).getD (Wire.refusal response text))

theorem run_post_eq :
    (post transport access decode path body).run s =
      match transport
        { method := .post, url := address access ++ path, bearer := access.apiKey
          body := some body } s with
      | (.error reason, t) => (.error (.api provider.name s!"HTTP request failed: {reason}"), t)
      | (.ok response, t) => (Wire.outcome (refused response)
          (.model s!"Failed to parse OpenAI response: {Wire.unreadable}") decode response, t) := by
  rw [post, Action.run_bind, Action.run_liftM]
  rcases transport
      { method := .post, url := address access ++ path, bearer := access.apiKey
        body := some body } s with ⟨reason | response, t⟩
  · rfl
  simp only [Action.run_bind, Action.run_liftExcept, Wire.outcome]
  cases Wire.textOf response with
  | error => rfl
  | ok text =>
    cases response.isSuccess
    · simp only [Bool.not_false, if_true, refused, bind, Except.bind]
      cases Json.Decode.text decodeError text <;> rfl
    · simp only [Bool.not_true, Bool.false_eq_true, if_false, bind, Except.bind]
      cases Json.Decode.text decode text <;> rfl

end OpenAI

end ClaimAudit.Backend
