import ClaimAudit.Json.Decode
import ClaimAudit.Knowledge.Hit

/-! The JSON form of search hits. -/

set_option autoImplicit false

namespace ClaimAudit.Knowledge

def Hit.json (h : Hit) : Json.Value := .object
  [("id", .string h.id), ("text", .string h.text), ("score", .ofFloat h.score.toFloat),
   ("metadata", .object h.metadata)]

def Hit.decode : Json.Decoder Hit := fun source tree => do
  let f ← Json.Decode.fields ["id", "text", "score", "metadata"] source tree
  let metadata ← f.required "metadata" (Json.Decode.members Json.Decode.value)
  return { id := ← f.required "id" Json.Decode.string
           text := ← f.required "text" Json.Decode.string
           score := .ofFloat32 (← f.required "score" Json.Decode.float32)
           metadata := Json.Members.ofList metadata }

end ClaimAudit.Knowledge
