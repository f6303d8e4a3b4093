import ClaimAudit.Text.Hexadecimal
import ClaimAudit.Text.Search

/-! Universally unique identifiers.

An identifier is read from 32 hexadecimal digits, or from the hyphenated form,
which may stand in braces or after a URN prefix. It has one written form:
hyphenated, in lower case.
-/

set_option autoImplicit false

namespace ClaimAudit

structure Uuid where
  bits : BitVec 128
  deriving DecidableEq, Repr

namespace Uuid

def digitsValue (digits : List Nat) : Nat := digits.foldl (fun value d => value * 16 + d) 0

def ofDigits? (cs : List Char) : Option Uuid :=
  if cs.length = 32 then
    (cs.mapM Text.hexDigit?).map fun digits => ⟨.ofNat 128 (digitsValue digits)⟩
  else none

def ofHyphenated? (cs : List Char) : Option Uuid :=
  if cs.length = 36 ∧ [8, 13, 18, 23].all (fun i => cs[i]? = some '-') then
    ofDigits? (cs.filter (· ≠ '-'))
  else none

def braced? : List Char → Option (List Char)
  | '{' :: rest => if rest.getLast? = some '}' then some rest.dropLast else none
  | _ => none

def urn? (cs : List Char) : Option (List Char) :=
  (Text.dropPrefix "urn:uuid:".toList (cs.map Char.toLower)).map fun _ => cs.drop 9

def ofChars? (cs : List Char) : Option Uuid :=
  match ofDigits? cs, ofHyphenated? cs with
  | some id, _ => some id
  | none, some id => some id
  | none, none => ((braced? cs).or (urn? cs)).bind ofHyphenated?

def ofString? (s : String) : Option Uuid := ofChars? s.toList

/-- The hexadecimal digits from `first` on, counted from the most significant one. -/
def digits (id : Uuid) (first count : Nat) : List Char :=
  (List.range count).map fun i => (id.bits.toNat / Nat.pow 16 (31 - (first + i)) % 16).digitChar

def chars (id : Uuid) : List Char :=
  id.digits 0 8 ++ '-' :: id.digits 8 4 ++ '-' :: id.digits 12 4 ++ '-' :: id.digits 16 4 ++
    '-' :: id.digits 20 12

def toString (id : Uuid) : String := String.ofList id.chars

def version (id : Uuid) : Nat := id.bits.toNat / 0x10000000000000000000 % 16

def ofRandomBits (bits : BitVec 128) : Uuid :=
  let version : BitVec 128 := 4#128 <<< 76
  let variant : BitVec 128 := 2#128 <<< 62
  ⟨bits &&& ~~~(15#128 <<< 76) &&& ~~~(3#128 <<< 62) ||| version ||| variant⟩

def ofRandomBytes (bytes : List UInt8) : Uuid :=
  ofRandomBits (.ofNat 128 (bytes.foldl (fun value byte => value * 256 + byte.toNat) 0))

end Uuid

end ClaimAudit
