import ClaimAudit.Number.Dyadic

/-! The shortest decimal that reads back as a given floating-point number.

The reals that round to a number form an interval around it. For one digit, two
digits and so on, the two multiples of the last digit's place that enclose the
number are tried; the first length at which one of them lies in the interval
wins, and of two the nearer.
-/

set_option autoImplicit false

namespace ClaimAudit.Number

structure Scientific where
  digits : Nat
  exponent : Int
  deriving DecidableEq, Repr

def countDigits (n : Nat) : Nat := (Nat.toDigits 10 n).length

def leadingPlace (numerator denominator : Nat) : Int :=
  let guess : Int := countDigits numerator - countDigits denominator
  let reached :=
    if 0 ≤ guess then denominator * Nat.pow 10 guess.toNat ≤ numerator
    else denominator ≤ numerator * Nat.pow 10 (-guess).toNat
  if reached then guess else guess - 1

/-- A positive number with the bounds of the reals that round to it, all three
over one denominator. Whether a bound rounds to the number too is `closed`. -/
structure Interval where
  value : Nat
  lower : Nat
  upper : Nat
  denominator : Nat
  closed : Bool

/-- The interval of a positive finite number. Below a power of two the spacing of
floating-point numbers halves, except at the least exponent. -/
def Interval.of (d : Dyadic) : Interval :=
  let narrow := d.mantissa = 0x10000000000000 ∧ -1074 < d.exponent
  let below := if narrow then 1 else 2
  let scale := if 2 ≤ d.exponent then Nat.pow 2 (d.exponent - 2).toNat else 1
  let denominator := if 2 ≤ d.exponent then 1 else Nat.pow 2 (2 - d.exponent).toNat
  { value := 4 * d.mantissa * scale
    lower := (4 * d.mantissa - below) * scale
    upper := (4 * d.mantissa + 2) * scale
    denominator
    closed := d.mantissa % 2 == 0 }

/-- The best decimal on the grid of multiples of `10 ^ place`, if one of the two
grid points around the number lies in the interval. -/
def Interval.onGrid (i : Interval) (place : Int) : Option Scientific :=
  let up := if 0 ≤ place then Nat.pow 10 place.toNat else 1
  let down := if 0 ≤ place then 1 else Nat.pow 10 (-place).toNat
  let unit := up * i.denominator
  let below := i.value * down / unit
  let inside (n : Nat) : Bool :=
    if i.closed then i.lower * down ≤ n * unit && n * unit ≤ i.upper * down
    else i.lower * down < n * unit && n * unit < i.upper * down
  let gapBelow := i.value * down - below * unit
  let gapAbove := (below + 1) * unit - i.value * down
  match inside below, inside (below + 1) with
  | false, false => none
  | true, false => some ⟨below, place⟩
  | false, true => some ⟨below + 1, place⟩
  | true, true =>
    if gapBelow < gapAbove then some ⟨below, place⟩
    else if gapAbove < gapBelow then some ⟨below + 1, place⟩
    else some ⟨below + below % 2, place⟩

/-- The upper grid point of one digit may be a ten, which is a one a place higher. -/
def Scientific.carried (s : Scientific) : Scientific :=
  if s.digits = 10 then ⟨1, s.exponent + 1⟩ else s

/-- Seventeen digits always tell two 64-bit numbers apart, so the search never
runs past that length. -/
def shortest (d : Dyadic) : Scientific :=
  let interval := Interval.of d
  let leading := leadingPlace interval.value interval.denominator
  let found := (List.range 17).findSome? fun (n : Nat) => interval.onGrid (leading - n)
  (found.getD ⟨0, 0⟩).carried

end ClaimAudit.Number
