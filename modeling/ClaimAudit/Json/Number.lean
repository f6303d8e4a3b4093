import ClaimAudit.Number.Decimal
import ClaimAudit.Number.Shortest

/-! Numbers in JSON texts.

A literal without point and exponent is a whole number if 64 bits hold it, and
every other literal is a 64-bit floating-point number. A floating-point number is
written with the fewest digits that read back.
-/

set_option autoImplicit false

namespace ClaimAudit.Json

open ClaimAudit.Number (digitsValue signed? exponent?)

inductive Number where
  | whole (value : Int)
  | real (value : Float)
  deriving DecidableEq

/-- The parts of a number literal. No fraction and no exponent are `[]` and `none`. -/
structure Literal where
  negative : Bool
  whole : List Char
  fraction : List Char
  exponent : Option Int
  deriving DecidableEq

/-- The grammar of literals: no leading zero, no leading plus, and digits on both
sides of a point. -/
def Literal.ofChars? (cs : List Char) : Option Literal :=
  let (negative, cs) := match cs with
    | '-' :: cs => (true, cs)
    | cs => (false, cs)
  let whole := cs.takeWhile Char.isDigit
  let rest := cs.dropWhile Char.isDigit
  if whole = [] ∨ (1 < whole.length ∧ whole.head? = some '0') then none
  else
    match rest with
    | '.' :: rest =>
      let fraction := rest.takeWhile Char.isDigit
      let rest := rest.dropWhile Char.isDigit
      if fraction = [] then none
      else if rest = [] then some ⟨negative, whole, fraction, none⟩
      else (exponent? rest).map fun exponent => ⟨negative, whole, fraction, some exponent⟩
    | [] => some ⟨negative, whole, [], none⟩
    | rest => (exponent? rest).map fun exponent => ⟨negative, whole, [], some exponent⟩

/-- Take digits into a significand while 64 bits hold it, and return the rest. -/
def absorb (significand : Nat) : List Char → Nat × List Char
  | [] => (significand, [])
  | c :: digits =>
    let next := significand * 10 + (c.toNat - '0'.toNat)
    if next < 0x10000000000000000 then absorb next digits else (significand, c :: digits)

def powerOfTen (exponent : Nat) : Float := Float.ofScientific 1 false exponent

/-- A significand times a power of ten, by one rounded multiplication or division
when the power is a 64-bit number, and after steps of `10 ^ 308` when it is not.
Overflow has no value. -/
def scale (significand : Float) (exponent : Int) : Option Float :=
  if exponent.natAbs ≤ 308 then
    if 0 ≤ exponent then
      let scaled := significand * powerOfTen exponent.natAbs
      if scaled.isInf then none else some scaled
    else some (significand / powerOfTen exponent.natAbs)
  else if significand == 0 then some significand
  else if 0 ≤ exponent then none
  else scale (significand / powerOfTen 308) (exponent + 308)
termination_by exponent.natAbs

/-- The number a literal stands for. The significand holds the leading digits
that fit; further digits of the whole part shift the exponent, and further digits
of the fraction are dropped. A literal beyond the floating-point range has none. -/
def Literal.number? (l : Literal) : Option Number :=
  let (leading, dropped) := absorb 0 l.whole
  match dropped, l.fraction, l.exponent with
  | [], [], none =>
    if !l.negative then some (.whole leading)
    else if 0 < leading ∧ leading ≤ 0x8000000000000000 then some (.whole (-leading))
    else some (.real (-Float.ofNat leading))
  | dropped, fraction, exponent =>
    let (significand, ignored) := absorb leading fraction
    let shift : Int := dropped.length - (fraction.length - ignored.length : Nat)
    (scale (Float.ofNat significand) (shift + exponent.getD 0)).map fun magnitude =>
      .real (if l.negative then -magnitude else magnitude)

def exponentChars (exponent : Int) : List Char :=
  (if 0 ≤ exponent then '+' else '-') :: Nat.toDigits 10 exponent.natAbs

/-- The text of digits times a power of ten: positional from `10 ^ -5` up to
`10 ^ 16`, and with an exponent elsewhere. -/
def layout (digits : List Char) (exponent : Int) : List Char :=
  let point : Int := digits.length + exponent
  if 0 ≤ exponent ∧ point ≤ 16 then
    digits ++ List.replicate exponent.toNat '0' ++ ['.', '0']
  else if 0 < point ∧ point ≤ 16 then
    digits.take point.toNat ++ '.' :: digits.drop point.toNat
  else if -5 < point ∧ point ≤ 0 then
    ['0', '.'] ++ List.replicate (-point).toNat '0' ++ digits
  else
    let tail := match digits with
      | first :: second :: rest => first :: '.' :: second :: rest
      | digits => digits
    tail ++ 'e' :: exponentChars (point - 1)

def realChars? (x : Float) : Option (List Char) :=
  match Number.read x with
  | .finite value =>
    let magnitude :=
      if value.mantissa = 0 then ['0', '.', '0']
      else
        let short := Number.shortest value
        layout (Nat.toDigits 10 short.digits) short.exponent
    some (if value.negative then '-' :: magnitude else magnitude)
  | _ => none

def wholeChars : Int → List Char
  | .ofNat n => Nat.toDigits 10 n
  | .negSucc n => '-' :: Nat.toDigits 10 (n + 1)

def Number.chars? : Number → Option (List Char)
  | .whole value => some (wholeChars value)
  | .real value => realChars? value

def Number.toFloat : Number → Float
  | .whole value => Float.ofInt value
  | .real value => value

end ClaimAudit.Json
