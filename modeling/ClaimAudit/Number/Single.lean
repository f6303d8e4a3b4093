/-! 32-bit floating-point numbers as they are stored.

A number is its bit pattern, so numbers that are not ordered can still be told
apart and stored exactly. The order reads the sign and the magnitude off the
pattern; both zeros have one place in it.
-/

set_option autoImplicit false

namespace ClaimAudit.Number

structure Single where
  bits : UInt32
  deriving DecidableEq, Repr

namespace Single

def ofFloat32 (x : Float32) : Single := ⟨x.toBits⟩

def toFloat32 (x : Single) : Float32 := Float32.ofBits x.bits

def ofFloat (x : Float) : Single := ofFloat32 x.toFloat32

def toFloat (x : Single) : Float := x.toFloat32.toFloat

def zero : Single := ⟨0⟩

def magnitude (x : Single) : Nat := x.bits.toNat % 0x80000000

def negative (x : Single) : Bool := 0x80000000 ≤ x.bits.toNat

/-- Patterns above the infinities stand for no number. -/
def isNumber (x : Single) : Bool := x.magnitude ≤ 0x7f800000

def place (x : Single) : Int := if x.negative then -x.magnitude else x.magnitude

def atMost (x y : Single) : Bool := x.isNumber && y.isNumber && x.place ≤ y.place

end Single

end ClaimAudit.Number
