import ClaimAudit.Http.Exchange
import ClaimAudit.Http.Url

/-! A transport over which no server can be reached. It tells a request that could
not be made from one that got no response. -/

set_option autoImplicit false

namespace ClaimAudit.Http

def headerText (s : String) : Bool :=
  s.toList.all fun c => c = '\t' ∨ (0x20 ≤ c.toNat ∧ c.toNat ≠ 0x7f)

def failure (request : Request) : String :=
  match Url.ofString? request.url with
  | none => "builder error"
  | some url =>
    if url.authority.isNone then s!"builder error for url ({url.toString})"
    else if !request.bearer.all headerText then "builder error"
    else if !url.isWeb then s!"builder error for url ({url.toString})"
    else s!"error sending request for url ({url.toString})"

def unreachable {σ : Type} : Transport σ := fun request => return .error (failure request)

end ClaimAudit.Http
