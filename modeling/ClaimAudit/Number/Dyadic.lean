/-! The exact value of a floating-point number.

Every finite 64-bit number is a signed whole multiple of a power of two. The
decimal formats work on that exact value, in natural-number arithmetic.
-/

set_option autoImplicit false

namespace ClaimAudit.Number

structure Dyadic where
  negative : Bool
  mantissa : Nat
  exponent : Int
  deriving DecidableEq, Repr

inductive Reading where
  | finite (value : Dyadic)
  | infinite (negative : Bool)
  | notANumber
  deriving DecidableEq, Repr

/-- Read the sign, exponent and fraction fields of a 64-bit number. A zero
exponent field means that the leading one of the mantissa is not implied. -/
def readBits (bits : Nat) : Reading :=
  let negative := bits / 0x8000000000000000 % 2 == 1
  let field : Nat := bits / 0x10000000000000 % 0x800
  let fraction : Nat := bits % 0x10000000000000
  if field = 2047 then
    if fraction = 0 then .infinite negative else .notANumber
  else if field = 0 then .finite ⟨negative, fraction, -1074⟩
  else .finite ⟨negative, 0x10000000000000 + fraction, Int.ofNat field - 1075⟩

def read (x : Float) : Reading := readBits x.toBits.toNat

def Dyadic.fraction (d : Dyadic) : Nat × Nat :=
  if 0 ≤ d.exponent then (d.mantissa * Nat.pow 2 d.exponent.toNat, 1)
  else (d.mantissa, Nat.pow 2 (-d.exponent).toNat)

end ClaimAudit.Number
