import ClaimAudit.Json.Value
import ClaimAudit.Text.Quoted

/-! How error messages show a JSON value: the kind of each part by name, strings
quoted, and the members of an object in the order of their keys. -/

set_option autoImplicit false

namespace ClaimAudit.Json

def Number.shown (n : Number) : List Char := n.chars?.getD []

mutual

def Value.shown : Value → List Char
  | .null => "Null".toList
  | .bool b => "Bool(".toList ++ (if b then "true" else "false").toList ++ [')']
  | .number n => "Number(".toList ++ n.shown ++ [')']
  | .string s => "String(".toList ++ Text.quotedChars s.toList ++ [')']
  | .array [] => "Array []".toList
  | .array (item :: rest) => "Array [".toList ++ item.shown ++ shownItems rest
  | .object [] => "Object \x7b\x7d".toList
  | .object ((key, item) :: rest) =>
    "Object \x7b".toList ++ Text.quotedChars key.toList ++ ": ".toList ++ item.shown ++
      shownMembers rest

def shownItems : List Value → List Char
  | [] => [']']
  | item :: rest => ", ".toList ++ item.shown ++ shownItems rest

def shownMembers : List (String × Value) → List Char
  | [] => ['}']
  | (key, item) :: rest =>
    ", ".toList ++ Text.quotedChars key.toList ++ ": ".toList ++ item.shown ++ shownMembers rest

end

end ClaimAudit.Json
