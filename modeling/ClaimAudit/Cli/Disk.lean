import ClaimAudit.Cli.Files
import ClaimAudit.Knowledge.Location
import ClaimAudit.Knowledge.Table

/-! Files of which some are databases.

An empty file is an empty database. A database is written in one of two ways: into its
file, with a journal beside it meanwhile, or into a log beside it, which has an index.
Opening a database turns to the log for good, unless there can be none. Rows in the log
move to the file when the database is closed; the log and its index go then. A program
that ends before that leaves them.
-/

set_option autoImplicit false

namespace ClaimAudit.Cli

open ClaimAudit.Knowledge (Location LogIndex Table.Contents)

inductive Companion where
  | log
  | index
  | journal
  | lock
  deriving DecidableEq, Repr

def Companion.suffix : Companion → String
  | .log => "-wal"
  | .index => "-shm"
  | .journal => "-journal"
  | .lock => ".lock"

def Place.beside (p : Place) (companion : Companion) : Place := p.extend companion.suffix

structure Database where
  table : Table.Contents := none
  /-- The file itself holds a table. -/
  saved : Bool := false
  /-- What changes is written to a log first. -/
  logged : Bool := false
  deriving DecidableEq, Repr

namespace Database

def isEmpty (db : Database) : Bool := !db.saved && !db.logged

def noText : List UInt8 := [0x00, 0x81]

/-- The file of a database as far as a reader of texts can tell: with a table in it, it is
no text, and without one a text of no use. -/
def bytes (db : Database) : List UInt8 :=
  if db.saved then noText else if db.logged then [0x00] else []

end Database

inductive Refusal where
  | unreachable
  | readOnly
  | noDatabase
  | locked
  | failed
  deriving DecidableEq, Repr

def Refusal.message : Refusal → String
  | .unreachable => "unable to open database file"
  | .readOnly => "attempt to write a readonly database"
  | .noDatabase => "file is not a database"
  | .locked => "database is locked"
  | .failed => "disk I/O error"

structure Disk where
  files : Files := []
  databases : List (Place × Database) := []

namespace Disk

/-- A change of the disk that may be refused halfway. -/
abbrev Change := ExceptT Refusal (StateM Disk)

def contents (d : Disk) : Files :=
  d.databases.map (fun (place, db) => (place, db.bytes)) ++ d.files

def tree (d : Disk) : Tree := d.contents.tree

def erase (d : Disk) (place : Place) : Disk where
  files := d.files.erase place
  databases := d.databases.filter fun (other, _) => other ≠ place

def put (d : Disk) (place : Place) (bytes : List UInt8) : Disk :=
  { d.erase place with files := d.files.put place bytes }

def store (d : Disk) (place : Place) (db : Database) : Disk :=
  { d with databases := (place, db) :: d.databases.filter fun (other, _) => other ≠ place }

def withTable (d : Disk) (place : Place) (table : Table.Contents) : Disk :=
  { d with databases := d.databases.map fun (other, db) =>
      (other, if other = place then { db with table } else db) }

def pathLimit : Nat := 504

def wayLimit : Nat := 511

def locate (l : Location) : Change Place := do
  let d ← get
  let some place := d.tree.resolve? wayLimit l.path | throw .unreachable
  if pathLimit < place.length then throw .unreachable
  if l.model.any fun path => !(d.tree.follow path).isOk then throw .failed
  return place

/-- The database at a place. It is only made in a directory that is there. -/
def databaseAt (l : Location) (place : Place) : Change Database := do
  let d ← get
  if let some db := d.databases.lookup place then return db
  match d.tree place with
  | none =>
    if l.mode ≠ .create || Files.isSealed place || d.tree place.parent ≠ some .directory then
      throw .unreachable
  | some .directory => throw .unreachable
  | some .void => throw .failed
  | some (.file bytes) => if bytes ≠ [] then throw .noDatabase
  set (d.store place {})
  return {}

/-- Write to the file of a database. That takes room for a journal. -/
def rewrite (place : Place) (db : Database) : Change Unit := do
  let d ← get
  let journal := place.beside .journal
  if !d.tree.admits journal || d.tree journal = some .directory then throw .unreachable
  set ((d.erase journal).store place db)

/-- Whether a program finds out that nobody else writes to a database. It takes a lock that
is a file for that of another program. -/
def isAlone (l : Location) : Bool :=
  l.unlocked || match l.system with
    | .shared | .exclusive => l.isWritable
    | .lockFile => false
    | .unlocked | .memory => true

/-- A journal or a log beside an empty database is left from another one, and goes. -/
def discardRemains (l : Location) (place : Place) : Change Unit := do
  let d ← get
  let d := match d.tree (place.beside .journal) with
    | some (.file (_ :: _)) => if isAlone l then d.erase (place.beside .journal) else d
    | _ => d
  set d
  match d.tree (place.beside .log) with
  | some .directory => throw .failed
  | some (.file (_ :: _)) => set (d.erase (place.beside .log))
  | _ => pure ()

def writesLog (d : Disk) (l : Location) (index : LogIndex) (place : Place) : Bool :=
  l.isWritable &&
    (index = .inMemory || !l.fixedIndex && d.tree (place.beside .index) ≠ some .directory)

/-- Have a log and an index of it. What stands at the place of the index is written over,
unless it is a directory. -/
def openLog (l : Location) (index : LogIndex) (place : Place) : Change Unit := do
  let d ← get
  let d ← match d.tree (place.beside .log) with
    | none => pure (d.put (place.beside .log) [])
    | some .directory => throw .unreachable
    | _ => pure d
  set d
  if index = .inFile then
    match d.tree (place.beside .index), l.fixedIndex with
    | none, true => throw .unreachable
    | some .directory, _ | _, true => pure ()
    | _, false => set (d.put (place.beside .index) Database.noText)

def openPlain (l : Location) (place : Place) (db : Database) : Change Unit := do
  if db.logged then throw .unreachable
  if db.table.isNone then
    if !l.isWritable then throw .readOnly
    rewrite place { db with table := Knowledge.Table.create none, saved := true }

def openLogged (l : Location) (index : LogIndex) (place : Place) (db : Database) :
    Change Unit := do
  let logged := { db with logged := true }
  if !db.logged then
    if !l.isWritable then throw .readOnly
    rewrite place logged
  openLog l index place
  if db.table.isNone then
    let d ← get
    if !d.writesLog l index place then throw .readOnly
    let log := d.put (place.beside .log) Database.noText
    set (log.store place { logged with table := Knowledge.Table.create none })

/-- Open a database, and create its table if it has none. What was done before a refusal
stays. -/
def openAt (l : Location) : Change Place := do
  let place ← locate l
  let db ← databaseAt l place
  if l.immutable then
    if db.table.isNone || !db.saved then throw .readOnly
  else
    if l.system = .lockFile && !l.unlocked && ((← get).tree (place.beside .lock)).isSome then
      throw .locked
    if db.isEmpty then discardRemains l place
    match l.logIndex? with
    | none => openPlain l place db
    | some index => openLogged l index place db
  return place

/-- Close a database: its log goes, and with it an index in a file. -/
def close (d : Disk) (l : Location) (place : Place) : Disk :=
  match d.databases.lookup place, l.logIndex? with
  | some db, some index =>
    if !l.immutable && d.writesLog l index place then
      let closed := (d.erase (place.beside .log)).store place { db with saved := true }
      if index = .inFile then closed.erase (place.beside .index) else closed
    else d
  | _, _ => d

end Disk

end ClaimAudit.Cli
