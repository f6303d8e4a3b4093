import ClaimAudit.Text.Hexadecimal
import ClaimAudit.Text.Printable

/-! Texts shown between double quotes, as error messages show what they were given.

A quote and a backslash take a backslash, the common controls their letter, and
any other character that cannot be shown plainly its code point in braces.
-/

set_option autoImplicit false

namespace ClaimAudit.Text

def quotedChar (c : Char) : List Char :=
  match c with
  | '\x00' => ['\\', '0']
  | '\t' => ['\\', 't']
  | '\r' => ['\\', 'r']
  | '\n' => ['\\', 'n']
  | '\\' => ['\\', '\\']
  | '"' => ['\\', '"']
  | c => if isPlain c then [c] else ['\\', 'u', '{'] ++ hexDigits c.toNat ++ ['}']

def quotedChars (cs : List Char) : List Char := '"' :: cs.flatMap quotedChar ++ ['"']

def quoted (s : String) : String := String.ofList (quotedChars s.toList)

end ClaimAudit.Text
