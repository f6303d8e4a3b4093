import ClaimAudit.Backend.Client
import ClaimAudit.Http.Exchange
import ClaimAudit.Json.Decode
import ClaimAudit.Text.Search

/-! What the protocols of the backends have in common. -/

set_option autoImplicit false

namespace ClaimAudit.Backend.Wire

def messageJson (m : Message) : Json.Value := .object
  [("role", .string m.role.name), ("content", .string m.content)]

def messagesJson (request : CompletionRequest) : Json.Value :=
  .array (request.flattened.map messageJson)

def present (name : String) (value : Option Json.Value) : List (String × Json.Value) :=
  (value.map fun v => (name, v)).toList

def embeddingBody (model : String) (texts : List String) : Json.Value :=
  .object [("model", .string model), ("input", .strings texts)]

/-- The content of a message; its role may be any text, and no content is empty. -/
def decodeContent : Json.Decoder String := fun source tree => do
  let f ← Json.Decode.fields ["role", "content"] source tree
  let _ ← f.required "role" Json.Decode.string
  f.orElse "content" "" Json.Decode.string

def decodeVector : Json.Decoder Embedding := fun source tree =>
  (Json.Decode.list Json.Decode.float32 source tree).map fun xs => xs.map Number.Single.ofFloat32

def textOf (response : Http.Response) : Except Error String :=
  response.text.mapError fun reason => .model s!"Failed to read response: {reason}"

def refusal (response : Http.Response) (text : String) : String :=
  s!"request failed ({response.statusText}): {text}"

def unreadable : String := "the response has another form"

end ClaimAudit.Backend.Wire
