import ClaimAudit.Text.Hexadecimal

/-! Bytes written as percent signs with two hexadecimal digits. A percent sign without
two digits after it stands for itself. -/

set_option autoImplicit false

namespace ClaimAudit.Text

def charBytes (c : Char) : List UInt8 := (String.singleton c).toUTF8.toList

def percentByte (byte : UInt8) : List Char :=
  ['%', (byte.toNat / 16).digitChar.toUpper, (byte.toNat % 16).digitChar.toUpper]

def percentEncode (kept : Char → Bool) (cs : List Char) : List Char :=
  cs.flatMap fun c => if kept c then [c] else (charBytes c).flatMap percentByte

def percentDecode : List Char → List UInt8
  | '%' :: high :: low :: rest =>
    match hexDigit? high, hexDigit? low with
    | some h, some l => (h * 16 + l).toUInt8 :: percentDecode rest
    | _, _ => charBytes '%' ++ percentDecode (high :: low :: rest)
  | c :: rest => charBytes c ++ percentDecode rest
  | [] => []

end ClaimAudit.Text
