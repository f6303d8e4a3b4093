import ClaimAudit.Http.Reason
import ClaimAudit.Json.Value
import ClaimAudit.Text.Utf8

/-! Requests to a server and its responses. -/

set_option autoImplicit false

namespace ClaimAudit.Http

inductive Method where
  | get
  | put
  | post
  deriving DecidableEq, Repr

def Method.name : Method → String
  | .get => "GET"
  | .put => "PUT"
  | .post => "POST"

structure Request where
  method : Method
  url : String
  /-- A token that authorizes the request. -/
  bearer : Option String := none
  body : Option Json.Value := none

structure Response where
  status : Nat
  /-- The bytes of the body, or why they could not be read. -/
  body : Except String (List UInt8)

namespace Response

def isSuccess (r : Response) : Bool := 200 ≤ r.status && r.status < 300

def statusText (r : Response) : String := s!"{r.status} {reason r.status}"

def text (r : Response) : Except String String := r.body.map Text.Utf8.lossy

end Response

/-- A way to send requests. It fails with a text when no response arrives. -/
abbrev Transport (σ : Type) := Request → StateM σ (Except String Response)

end ClaimAudit.Http
