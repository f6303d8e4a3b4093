import ClaimAudit.Number.Dyadic

/-! Numbers with a fixed count of decimal places.

The exact binary value is rounded once, to the nearest multiple of the last
place, and a tie goes to the even neighbour.
-/

set_option autoImplicit false

namespace ClaimAudit.Number

/-- The whole number nearest to a quotient; a tie goes to the even one. -/
def roundHalfEven (numerator denominator : Nat) : Nat :=
  let quotient := numerator / denominator
  let remainder := numerator % denominator
  if 2 * remainder < denominator then quotient
  else if denominator < 2 * remainder then quotient + 1
  else quotient + quotient % 2

/-- The decimal digits of `units`, with a point before the last `places` of them
and at least one digit in front of the point. -/
def placed (places units : Nat) : List Char :=
  let digits := Nat.toDigits 10 units
  let padded := List.replicate (places + 1 - digits.length) '0' ++ digits
  let whole := padded.length - places
  if places = 0 then padded else padded.take whole ++ '.' :: padded.drop whole

/-- A negative number keeps its sign even when every digit shown is zero. -/
def fixed (places : Nat) (x : Float) : String :=
  match read x with
  | .notANumber => "NaN"
  | .infinite negative => if negative then "-inf" else "inf"
  | .finite value =>
    let (numerator, denominator) := value.fraction
    let digits := placed places (roundHalfEven (numerator * Nat.pow 10 places) denominator)
    String.ofList (if value.negative then '-' :: digits else digits)

end ClaimAudit.Number
