import ClaimAudit.Http.Url

/-! How a backend is reached. -/

set_option autoImplicit false

namespace ClaimAudit.Backend

structure Access where
  defaultModel : String
  apiKey : Option String := none
  baseUrl : Option String := none
  timeoutSeconds : Nat := 60
  deriving DecidableEq, Repr

def Access.address (a : Access) (default : String) : String :=
  Http.withoutSlashes (a.baseUrl.getD default)

end ClaimAudit.Backend
