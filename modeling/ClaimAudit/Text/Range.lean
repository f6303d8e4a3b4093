/-! Sets of characters given as ranges of code points. -/

set_option autoImplicit false

namespace ClaimAudit.Text

def within (ranges : List (Nat × Nat)) (c : Char) : Bool :=
  ranges.any fun (first, last) => first ≤ c.toNat && c.toNat ≤ last

end ClaimAudit.Text
