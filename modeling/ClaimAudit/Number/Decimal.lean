/-! Decimal numerals and the floating-point numbers nearest to them. -/

set_option autoImplicit false

namespace ClaimAudit.Number

structure Decimal where
  negative : Bool
  coefficient : Nat
  exponent : Int
  deriving DecidableEq, Repr

def digitsValue (digits : List Char) : Nat :=
  digits.foldl (fun value c => value * 10 + (c.toNat - '0'.toNat)) 0

def signed? : List Char → Option (Bool × List Char)
  | '-' :: digits => if digits ≠ [] ∧ digits.all Char.isDigit then some (true, digits) else none
  | '+' :: digits => if digits ≠ [] ∧ digits.all Char.isDigit then some (false, digits) else none
  | digits => if digits ≠ [] ∧ digits.all Char.isDigit then some (false, digits) else none

def exponent? : List Char → Option Int
  | [] => some 0
  | c :: rest =>
    if c = 'e' ∨ c = 'E' then
      (signed? rest).map fun (negative, digits) =>
        if negative then -(digitsValue digits : Int) else digitsValue digits
    else none

/-- A numeral without its sign: digits with an optional point among or around
them, at least one digit in all, and an optional exponent. -/
def unsigned? (negative : Bool) (cs : List Char) : Option Decimal :=
  let whole := cs.takeWhile Char.isDigit
  let (fraction, rest) :=
    match cs.dropWhile Char.isDigit with
    | '.' :: rest => (rest.takeWhile Char.isDigit, rest.dropWhile Char.isDigit)
    | rest => ([], rest)
  if whole = [] ∧ fraction = [] then none
  else (exponent? rest).map fun exponent =>
    ⟨negative, digitsValue (whole ++ fraction), exponent - fraction.length⟩

/-- Read a decimal numeral: no blanks, no separators, no names of infinities. -/
def Decimal.ofChars? : List Char → Option Decimal
  | '-' :: cs => unsigned? true cs
  | '+' :: cs => unsigned? false cs
  | cs => unsigned? false cs

/-- The nearest 64-bit number. Beyond the range of the format the result is
infinite or zero; deciding that first keeps the powers of ten small. -/
def Decimal.toFloat (d : Decimal) : Float :=
  let magnitude : Float :=
    if d.coefficient = 0 then 0
    else
      let size : Int := (Nat.toDigits 10 d.coefficient).length + d.exponent
      if 310 < size then 1 / 0
      else if size < -330 then 0
      else if 0 ≤ d.exponent then Float.ofScientific d.coefficient false d.exponent.toNat
      else Float.ofScientific d.coefficient true (-d.exponent).toNat
  if d.negative then -magnitude else magnitude

end ClaimAudit.Number
