import ClaimAudit.Json.Value

/-! Writing JSON texts, in one line or indented.

Only quotes, backslashes and control characters are escaped. A floating-point
number without a decimal text, such as an infinity, is written as null.
-/

set_option autoImplicit false

namespace ClaimAudit.Json

def fourHex (n : Nat) : List Char :=
  [n / 4096 % 16, n / 256 % 16, n / 16 % 16, n % 16].map Nat.digitChar

def escapedChar (c : Char) : List Char :=
  match c with
  | '"' => ['\\', '"']
  | '\\' => ['\\', '\\']
  | '\x08' => ['\\', 'b']
  | '\x0c' => ['\\', 'f']
  | '\n' => ['\\', 'n']
  | '\r' => ['\\', 'r']
  | '\t' => ['\\', 't']
  | c => if c.toNat < 0x20 then '\\' :: 'u' :: fourHex c.toNat else [c]

def stringChars (s : String) : List Char := '"' :: s.toList.flatMap escapedChar ++ ['"']

def nullChars : List Char := ['n', 'u', 'l', 'l']

def boolChars (b : Bool) : List Char :=
  if b then ['t', 'r', 'u', 'e'] else ['f', 'a', 'l', 's', 'e']

mutual

def Value.chars : Value → List Char
  | .null => nullChars
  | .bool b => boolChars b
  | .number n => n.chars?.getD nullChars
  | .string s => stringChars s
  | .array [] => ['[', ']']
  | .array (item :: rest) => '[' :: item.chars ++ itemsChars rest
  | .object [] => ['{', '}']
  | .object ((key, item) :: rest) =>
    '{' :: stringChars key ++ ':' :: item.chars ++ membersChars rest

def itemsChars : List Value → List Char
  | [] => [']']
  | item :: rest => ',' :: item.chars ++ itemsChars rest

def membersChars : List (String × Value) → List Char
  | [] => ['}']
  | (key, item) :: rest => ',' :: stringChars key ++ ':' :: item.chars ++ membersChars rest

end

def Value.render (v : Value) : String := String.ofList v.chars

def lineBreak (level : Nat) : List Char := '\n' :: List.replicate (2 * level) ' '

mutual

def Value.indentedChars (level : Nat) : Value → List Char
  | .array (item :: rest) =>
    '[' :: lineBreak (level + 1) ++ item.indentedChars (level + 1) ++ indentedItems level rest
  | .object ((key, item) :: rest) =>
    '{' :: lineBreak (level + 1) ++ stringChars key ++ ':' :: ' ' ::
      item.indentedChars (level + 1) ++ indentedMembers level rest
  | .null => nullChars
  | .bool b => boolChars b
  | .number n => n.chars?.getD nullChars
  | .string s => stringChars s
  | .array [] => ['[', ']']
  | .object [] => ['{', '}']

def indentedItems (level : Nat) : List Value → List Char
  | [] => lineBreak level ++ [']']
  | item :: rest =>
    ',' :: lineBreak (level + 1) ++ item.indentedChars (level + 1) ++ indentedItems level rest

def indentedMembers (level : Nat) : List (String × Value) → List Char
  | [] => lineBreak level ++ ['}']
  | (key, item) :: rest =>
    ',' :: lineBreak (level + 1) ++ stringChars key ++ ':' :: ' ' ::
      item.indentedChars (level + 1) ++ indentedMembers level rest

end

def Value.renderIndented (v : Value) : String := String.ofList (v.indentedChars 0)

end ClaimAudit.Json
