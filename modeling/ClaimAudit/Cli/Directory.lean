import ClaimAudit.Cli.Disk
import ClaimAudit.Cli.Run
import ClaimAudit.Http.Unreachable

/-! A machine that consists of a working directory: files, databases among them, and
nothing to reach over the network.

A run closes the database that it opened. An unhealthy report ends the program at once,
and closes nothing.
-/

set_option autoImplicit false

namespace ClaimAudit.Cli

open ClaimAudit.Knowledge (Location Table.Contents)

structure Directory where
  disk : Disk := {}
  /-- The table of the database that has no file. -/
  transient : Table.Contents := none
  /-- The database that is open. -/
  opened : Option (Location × Place) := none
  /-- The source of identifiers. -/
  seed : BitVec 128 := 0
  now : Timestamp := ⟨0, 0, 0⟩

namespace Directory

def diskPart : Part Directory Disk := ⟨(·.disk), fun disk d => { d with disk }⟩

def table (place : Place) : Part Directory Table.Contents where
  get d := (d.disk.databases.lookup place).bind (·.table)
  set table d := { d with disk := d.disk.withTable place table }

def transientTable : Part Directory Table.Contents where
  get d := d.transient
  set transient d := { d with transient }

def openNamed (name : String) : Action Directory (Knowledge.Store Directory) := do
  let refused (refusal : Refusal) : Error := .storage s!"{refusal.message}: {name}"
  let some l := Location.ofName? name | throw (refused .unreachable)
  if l.isTransient then
    if !l.isWritable then throw (refused .readOnly)
    modify fun d => { d with transient := Knowledge.Table.create none }
    return Knowledge.Table.store.within transientTable
  let place ← diskPart.act ((Disk.openAt l).adapt refused)
  modify fun d => { d with opened := some (l, place) }
  return Knowledge.Table.store.within (table place)

def close (d : Directory) : Directory :=
  match d.opened with
  | some (l, place) => { d with disk := d.disk.close l place, opened := none }
  | none => d

/-- The next identifier, from a sequence that runs through all numbers of 128 bits. -/
def freshId : StateM Directory Uuid := do
  let d ← get
  set { d with seed := d.seed * 0x2360ed051fc65da44385df649fccf645#128 + 1 }
  return .ofRandomBits d.seed

def milliseconds (t : Timestamp) : Nat :=
  (t.day * 86400 + t.second).toNat * 1000 + t.nanosecond / 1000000

def readFile (d : Directory) (path : String) : Except String (List UInt8) :=
  (d.disk.tree.read path.toUTF8.toList).mapError PathError.message

def machine (environment : List (String × String)) : Machine Directory where
  lookup name := environment.lookup name
  read path := return (← get).readFile path
  transport := Http.unreachable
  openFile := openNamed
  clock := return milliseconds (← get).now
  now := return (← get).now
  freshId := freshId

def environment? (d : Directory) (environment : List (String × String)) :
    Option (List (String × String)) :=
  match d.readFile ".env" with
  | .ok bytes =>
    match Text.Utf8.strict? bytes with
    | some text => Dotenv.load environment text
    | none => some environment
  | .error _ => some environment

def run (environment : List (String × String)) (arguments : List String) :
    StateM Directory Outcome := do
  match (← get).environment? environment with
  | none => return .aborted
  | some environment =>
    let outcome ← Cli.run (machine environment) arguments
    modify fun d => if outcome.isReport then { d with opened := none } else d.close
    return outcome

end Directory

end ClaimAudit.Cli
