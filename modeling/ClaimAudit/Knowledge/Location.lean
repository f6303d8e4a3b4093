import ClaimAudit.Text.Hexadecimal
import ClaimAudit.Text.Percent
import ClaimAudit.Text.Search
import ClaimAudit.Text.Utf8

/-! Names of databases.

A name is the path of a file, or an address: `file:`, a path, and options after a
question mark. In an address a percent sign and two hexadecimal digits stand for a
byte, and a hash sign begins a remark. Options say what the file is opened for and
how programs share it; an option that is not known counts for nothing, but a mode, a
cache or a system that is not known makes the whole name useless.
-/

set_option autoImplicit false

namespace ClaimAudit.Knowledge

inductive Mode where
  | read
  | write
  | create
  | memory
  deriving DecidableEq, Repr

namespace Mode

def ofName? : String → Option Mode
  | "ro" => some .read
  | "rw" => some .write
  | "rwc" => some .create
  | "memory" => some .memory
  | _ => none

def rank : Mode → Nat
  | .read => 0
  | .write => 1
  | .create => 2
  | .memory => 3

/-- The mode that follows another in one address. It must not permit more, but any
mode may turn into memory. -/
def followedBy? (mode next : Mode) : Option Mode :=
  if next = .memory ∨ next.rank ≤ mode.rank then some next else none

end Mode

inductive System where
  /-- Any number of programs use a database, and an index of its log in a file. -/
  | shared
  /-- Who may write to a database has it alone, and keeps the index of its log. -/
  | exclusive
  /-- A file beside a database keeps others out, and there is no log. -/
  | lockFile
  /-- Nobody is kept out, and there is no log. -/
  | unlocked
  /-- There are no files, everything is kept in memory. -/
  | memory
  deriving DecidableEq, Repr

def System.ofName? : String → Option System
  | "unix" => some .shared
  | "unix-excl" => some .exclusive
  | "unix-dotfile" => some .lockFile
  | "unix-none" => some .unlocked
  | "memdb" => some .memory
  | _ => none

inductive LogIndex where
  | inFile
  | inMemory
  deriving DecidableEq, Repr

structure Location where
  path : List UInt8
  mode : Mode := .create
  system : System := .shared
  /-- Nobody changes the file, so what a log beside it holds is not looked at. -/
  immutable : Bool := false
  /-- Nobody is kept out, whatever the system. -/
  unlocked : Bool := false
  /-- An index in a file is not changed. -/
  fixedIndex : Bool := false
  /-- The file whose owner and permissions a new database takes over. -/
  model : Option (List UInt8) := none
  deriving DecidableEq, Repr

namespace Location

def isNamed (l : Location) : Bool :=
  l.mode ≠ .memory && l.path ≠ [] && l.path ≠ ":memory:".toUTF8.toList

def isTransient (l : Location) : Bool := !l.isNamed || l.system = .memory

/-- A database without a name is never immutable. -/
def isWritable (l : Location) : Bool := l.mode ≠ .read && !(l.immutable && l.isNamed)

def logIndex? (l : Location) : Option LogIndex :=
  if l.unlocked then none
  else match l.system with
    | .shared => some .inFile
    | .exclusive => some (if l.mode = .read then .inFile else .inMemory)
    | .lockFile | .unlocked | .memory => none

/-- The bytes that a part of an address stands for. A zero ends the part. -/
def decode (part : List Char) : List UInt8 := (Text.percentDecode part).takeWhile (· ≠ 0)

def options (query : List Char) : List (String × List UInt8) :=
  let option (piece : List Char) : String × List UInt8 :=
    let name := piece.takeWhile (· ≠ '=')
    (Text.Utf8.lossy (decode name), decode (piece.drop (name.length + 1)))
  ((Text.splitAll '&' query).map option).filter fun (name, _) => name ≠ ""

/-- The number that digits begin with, in base 10, or in base 16 after `0x`. It is 0 if
it does not fit in 31 bits. -/
def number (text : List Char) : Nat :=
  let digits (base : Nat) (text : List Char) : Nat :=
    let values := text.map fun c => Text.hexDigit? c |>.filter (· < base)
    ((values.takeWhile Option.isSome).filterMap id).foldl (fun n d => n * base + d) 0
  let n := match text with
    | '0' :: x :: rest => if x.toLower = 'x' then digits 16 rest else digits 10 text
    | _ => digits 10 text
  if n < 0x80000000 then n else 0

/-- Whether a text means yes. Of a number the last byte counts. -/
def isYes (text : String) : Bool :=
  if text.toList.head?.any Char.isDigit then number text.toList % 256 ≠ 0
  else text.toLower ∈ ["on", "yes", "true"]

def withOption (l : Location) : String × List UInt8 → Option Location
  | ("mode", value) => do
    return { l with mode := ← l.mode.followedBy? (← Mode.ofName? (Text.Utf8.lossy value)) }
  | ("cache", value) => if Text.Utf8.lossy value ∈ ["shared", "private"] then some l else none
  | _ => some l

def memoryPathLimit : Nat := 1016

/-- The location of an address, given what follows its scheme. Of options with one name
the first counts, but the system is the last that is named. -/
def ofAddress? (address : List Char) : Option Location := do
  let rest ← match Text.dropPrefix ['/', '/'] address with
    | none => some address
    | some server =>
      let host := server.takeWhile (· ≠ '/')
      if host = [] ∨ host = "localhost".toList then some (server.drop host.length) else none
  let rest := rest.takeWhile (· ≠ '#')
  let path := rest.takeWhile (· ≠ '?')
  let options := options (rest.drop (path.length + 1))
  let l ← options.foldlM withOption { path := decode path }
  let isOn (name : String) : Bool := (options.lookup name).any (isYes ∘ Text.Utf8.lossy)
  let system ← match options.reverse.lookup "vfs" with
    | none => some .shared
    | some name => System.ofName? (Text.Utf8.lossy name)
  let l := { l with
    system
    immutable := isOn "immutable"
    unlocked := isOn "nolock"
    fixedIndex := isOn "readonly_shm"
    model := options.lookup "modeof" }
  guard !(l.isNamed && system = .memory && memoryPathLimit < l.path.length)
  return l

def ofName? (name : String) : Option Location :=
  if name.toList.contains '\x00' then none
  else match Text.dropPrefix "file:".toList name.toList with
    | some address => ofAddress? address
    | none => some { path := name.toUTF8.toList }

end Location

end ClaimAudit.Knowledge
