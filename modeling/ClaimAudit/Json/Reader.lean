import ClaimAudit.Json.Token

/-! Reading JSON texts.

A pushdown machine takes one token at a time, so it ends with the text and its
depth is that of its stack. It accepts one value with nothing after it.
-/

set_option autoImplicit false

namespace ClaimAudit.Json

/-- An open container around the value being read, latest elements first. A
member holds the key whose value is awaited. -/
inductive Frame where
  | items (read : List Tree)
  | member (read : List (Option String × Tree)) (key : Option String)

inductive State where
  | value (stack : List Frame)
  | firstItem (stack : List Frame)
  | firstKey (stack : List Frame)
  | key (read : List (Option String × Tree)) (stack : List Frame)
  | colon (read : List (Option String × Tree)) (key : Option String) (stack : List Frame)
  | after (tree : Tree) (stack : List Frame)

def State.begin (stack : List Frame) : Token → Option State
  | .openArray => some (.firstItem stack)
  | .openObject => some (.firstKey stack)
  | .null => some (.after .null stack)
  | .bool b => some (.after (.bool b) stack)
  | .number n => some (.after (.number n) stack)
  | .string s => some (.after (.string s) stack)
  | _ => none

def State.step : State → Token → Option State
  | .value stack, token => State.begin stack token
  | .firstItem stack, .closeArray => some (.after (.array []) stack)
  | .firstItem stack, token => State.begin (.items [] :: stack) token
  | .firstKey stack, .closeObject => some (.after (.object []) stack)
  | .firstKey stack, .string name => some (.colon [] name stack)
  | .key read stack, .string name => some (.colon read name stack)
  | .colon read name stack, .colon => some (.value (.member read name :: stack))
  | .after tree (.items read :: stack), .comma => some (.value (.items (tree :: read) :: stack))
  | .after tree (.items read :: stack), .closeArray =>
    some (.after (.array (tree :: read).reverse) stack)
  | .after tree (.member read name :: stack), .comma => some (.key ((name, tree) :: read) stack)
  | .after tree (.member read name :: stack), .closeObject =>
    some (.after (.object ((name, tree) :: read).reverse) stack)
  | _, _ => none

def State.run (state : State) : List Token → Option State
  | [] => some state
  | token :: rest => (state.step token).bind (·.run rest)

def State.finished? : State → Option Tree
  | .after tree [] => some tree
  | _ => none

def Tree.read? (text : List Char) : Option Tree := do
  let tokens ← tokens? text
  let state ← State.run (.value []) tokens
  state.finished?

def maxLevels : Nat := 127

/-- The value of a JSON text in which every literal denotes one. -/
def Value.read? (text : List Char) : Option Value := do
  let tree ← Tree.read? text
  tree.value? maxLevels

def Value.ofString? (text : String) : Option Value := Value.read? text.toList

end ClaimAudit.Json
