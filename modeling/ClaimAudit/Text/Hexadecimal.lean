/-! Hexadecimal digits, in either case. -/

set_option autoImplicit false

namespace ClaimAudit.Text

def hexDigits (n : Nat) : List Char := Nat.toDigits 16 n

def hexDigit? (c : Char) : Option Nat :=
  if '0' ≤ c ∧ c ≤ '9' then some (c.toNat - '0'.toNat)
  else if 'a' ≤ c ∧ c ≤ 'f' then some (c.toNat - 'a'.toNat + 10)
  else if 'A' ≤ c ∧ c ≤ 'F' then some (c.toNat - 'A'.toNat + 10)
  else none

theorem hexDigit?_digitChar {d : Nat} (small : d < 16) : hexDigit? d.digitChar = some d := by
  decide +revert

end ClaimAudit.Text
