import ClaimAudit.Text.Search

/-! Paths into a tree of files.

Places are seen from the working directory, of which nothing is known but that
directories lead to it. A path is followed from left to right, and every name in it
must stand in a directory, also the names of dots. A path can be resolved without
being followed, too: then `..` takes back the name before it, whether that leads
anywhere or not.
-/

set_option autoImplicit false

namespace ClaimAudit.Cli

abbrev Name := List UInt8

inductive Anchor where
  | root
  /-- The directory that many levels above the working directory. -/
  | above (levels : Nat)
  deriving DecidableEq, Repr

structure Place where
  anchor : Anchor := .above 0
  names : List Name := []
  deriving DecidableEq, Repr

namespace Place

/-- The directory that holds a place; the root holds itself. -/
def parent (p : Place) : Place :=
  match p.names, p.anchor with
  | [], .root => p
  | [], .above levels => { p with anchor := .above (levels + 1) }
  | names, _ => { p with names := names.dropLast }

def next (p : Place) (name : Name) : Place :=
  if name = [] ∨ name = ".".toUTF8.toList then p
  else if name = "..".toUTF8.toList then p.parent
  else { p with names := p.names ++ [name] }

def slash : UInt8 := '/'.toNat.toUInt8

def start (path : List UInt8) : Place :=
  if path.head? = some slash then { anchor := .root } else {}

def ofPath (path : List UInt8) : Place := (Text.splitAll slash path).foldl next (start path)

def extend (p : Place) (suffix : String) : Place :=
  { p with names := p.names.dropLast ++ [p.names.getLastD [] ++ suffix.toUTF8.toList] }

def leadsTo (p other : Place) : Bool :=
  p.anchor = other.anchor && p.names.isPrefixOf other.names && p.names.length < other.names.length

def workingLength : Nat := 15

def length (p : Place) : Nat :=
  (if p.anchor = .above 0 then workingLength else 0) +
    (p.names.map fun name => name.length + 1).foldl (· + ·) 0

end Place

inductive Entry where
  | directory
  | file (bytes : List UInt8)
  /-- A file that is always empty and keeps nothing. -/
  | void
  deriving DecidableEq, Repr

inductive PathError where
  | missing
  | notDirectory
  | isDirectory
  | nameTooLong
  deriving DecidableEq, Repr

def PathError.message : PathError → String
  | .missing => "No such file or directory (os error 2)"
  | .notDirectory => "Not a directory (os error 20)"
  | .isDirectory => "Is a directory (os error 21)"
  | .nameTooLong => "File name too long (os error 36)"

abbrev Tree := Place → Option Entry

namespace Tree

def nameLimit : Nat := 255

def pathLimit : Nat := 4095

def step (tree : Tree) (place : Place) (name : Name) : Except PathError Place :=
  match tree place with
  | none => .error .missing
  | some (.file _) | some .void => .error .notDirectory
  | some .directory =>
    if nameLimit < name.length then .error .nameTooLong
    else if (tree (place.next name)).isNone then .error .missing
    else .ok (place.next name)

def follow (tree : Tree) (path : List UInt8) : Except PathError Place :=
  if path = [] then .error .missing
  else if pathLimit < path.length then .error .nameTooLong
  else (Text.splitAll Place.slash path).foldlM tree.step (Place.start path)

def read (tree : Tree) (path : List UInt8) : Except PathError (List UInt8) := do
  match tree (← tree.follow path) with
  | some (.file bytes) => return bytes
  | some .void => return []
  | some .directory => throw .isDirectory
  | none => throw .missing

/-- Whether something stands at a place or could be put there, now or after
directories that are missing. -/
def admits (tree : Tree) (place : Place) : Bool :=
  match place.names.foldlM tree.step { anchor := place.anchor } with
  | .ok _ | .error .missing => true
  | .error _ => false

/-- The place that a path names, if the tree admits all places on the way and none of
them has a full path of more than `limit` bytes. -/
def resolve? (tree : Tree) (limit : Nat) (path : List UInt8) : Option Place :=
  let onward (place : Place) (name : Name) : Option Place :=
    let next := place.next name
    if tree.admits next && next.length ≤ limit then some next else none
  (Text.splitAll Place.slash path).foldlM onward (Place.start path)

end Tree

end ClaimAudit.Cli
