import ClaimAudit.Json.Reader

/-! Decoding syntax trees into typed values.

A decoder asks only for the literals it needs: an unknown member of an object is
skipped whatever it holds. A record is an object of its fields or an array of them
in declared order. A tagged choice is read in full before its kind is known, and
from then on its parts are *held*: they were read without knowing their types.
-/

set_option autoImplicit false

namespace ClaimAudit.Json

/-- Where a tree comes from: how many levels of nesting are left, and whether the
tree was held back until its type was known. -/
structure Source where
  levels : Nat := maxLevels
  held : Bool := false
  deriving Repr

abbrev Decoder (α : Type) := Source → Tree → Option α

def Source.inner? (source : Source) : Option Source :=
  match source.levels with
  | 0 => none
  | levels + 1 => some { source with levels }

namespace Decode

variable {α : Type}

def string : Decoder String
  | _, .string s => s
  | _, _ => none

def bool : Decoder Bool
  | _, .bool b => some b
  | _, _ => none

def below (bound : Nat) : Decoder Nat
  | _, .number (some (.whole (.ofNat n))) => if n < bound then some n else none
  | _, _ => none

def word64 : Decoder Nat := below 0x10000000000000000

def float : Decoder Float
  | _, .number n => n.map Number.toFloat
  | _, _ => none

/-- A 32-bit float; a whole number is rounded once, without a 64-bit step. -/
def float32 : Decoder Float32
  | _, .number (some (.whole value)) => some (Float32.ofInt value)
  | _, .number (some (.real value)) => some value.toFloat32
  | _, _ => none

def value : Decoder Value := fun source tree => tree.value? source.levels

def optional (decode : Decoder α) : Decoder (Option α)
  | _, .null => some none
  | source, tree => (decode source tree).map some

def list (decode : Decoder α) : Decoder (List α)
  | source, .array items => do
    let inner ← source.inner?
    items.mapM (decode inner)
  | _, _ => none

def members (decode : Decoder α) : Decoder (List (String × α))
  | source, .object entries => do
    let inner ← source.inner?
    entries.mapM fun (key, tree) => do
      let key ← key
      let item ← decode inner tree
      return (key, item)
  | _, _ => none

/-- The fields of a record before they are decoded. In an array the fields that
follow the last element are missing. -/
structure Fields where
  source : Source
  listed : Bool
  found : List (String × Option Tree)

/-- The one member of that name, if any; two are refused. -/
def single? (name : String) (entries : List (Option String × Tree)) : Option (Option Tree) :=
  match entries.filter fun (key, _) => key = some name with
  | [] => some none
  | [(_, tree)] => some (some tree)
  | _ => none

def pairUp : List String → List Tree → Option (List (String × Option Tree))
  | [], [] => some []
  | [], _ :: _ => none
  | name :: names, [] => (pairUp names []).map ((name, none) :: ·)
  | name :: names, tree :: trees => (pairUp names trees).map ((name, some tree) :: ·)

def fields (names : List String) : Decoder Fields
  | source, .object entries => do
    let inner ← source.inner?
    guard (entries.all fun (key, _) => key.isSome)
    let found ← names.mapM fun name => (single? name entries).map (name, ·)
    return ⟨inner, false, found⟩
  | source, .array items => do
    let inner ← source.inner?
    let found ← pairUp names items
    return ⟨inner, true, found⟩
  | _, _ => none

def Fields.tree? (f : Fields) (name : String) : Option Tree := (f.found.lookup name).join

def Fields.required (f : Fields) (name : String) (decode : Decoder α) : Option α :=
  (f.tree? name).bind (decode f.source)

def Fields.orElse (f : Fields) (name : String) (default : α) (decode : Decoder α) : Option α :=
  match f.tree? name with
  | none => some default
  | some tree => decode f.source tree

def Fields.nullable (f : Fields) (name : String) (decode : Decoder α) : Option (Option α) :=
  match f.tree? name with
  | none => if f.listed then none else some none
  | some tree => optional decode f.source tree

/-- One of several names, as a string or as the only key of an object that holds
nothing under it. Held parts may hold nothing as an empty object too. -/
def choice (names : List (String × α)) : Decoder α
  | _, .string (some s) => names.lookup s
  | source, .object [(some key, content)] => do
    let _ ← source.inner?
    match content with
    | .null => names.lookup key
    | .object [] => if source.held then names.lookup key else none
    | _ => none
  | _, _ => none

/-- The kind that a tag names. In held parts the position of a kind names it too. -/
def tagKind? {β : Type} (kinds : List (String × β)) (source : Source) : Tree → Option β
  | .string (some s) => kinds.lookup s
  | .number (some (.whole (.ofNat n))) => if source.held then (kinds[n]?).map (·.2) else none
  | _ => none

/-- A choice whose kind is the member `tag` of an object, or the first element of
an array. The decoder of the kind gets what is left. -/
def tagged (tag : String) (kinds : List (String × Decoder α)) : Decoder α := fun source tree => do
  let _ ← tree.value? source.levels
  let held := { source with held := true }
  match tree with
  | .object entries =>
    let kind ← (← single? tag entries)
    let decode ← tagKind? kinds source kind
    decode held (.object (entries.filter fun (key, _) => key ≠ some tag))
  | .array (kind :: rest) =>
    let decode ← tagKind? kinds source kind
    decode held (.array rest)
  | _ => none

def empty (a : α) : Decoder α
  | _, .object _ => some a
  | _, .array [] => some a
  | _, _ => none

def text (decode : Decoder α) (text : String) : Option α := do
  let tree ← Tree.read? text.toList
  decode {} tree

end Decode

end ClaimAudit.Json
