import ClaimAudit.Json.Reader
import ClaimAudit.Json.Writer
import ClaimAudit.Knowledge.Keyed
import ClaimAudit.Knowledge.Store

/-! A knowledge base in a table of a database file.

A row keeps the vector as bytes and the notes as JSON text. Rows stay in the order
in which their texts were first written. Notes that cannot be read back count as
empty, so a damaged row is still found.
-/

set_option autoImplicit false

namespace ClaimAudit.Knowledge.Table

/-- The stored form of a vector. Only bytes can be read back as one. -/
inductive Cell where
  | blob (bytes : List UInt8)
  | text (value : String)
  deriving DecidableEq, Repr

structure Row where
  id : Uuid
  text : String
  embedding : Cell
  metadata : String
  deriving DecidableEq, Repr

abbrev Contents := Option (List Row)

def noTable : Error := .storage "no such table: knowledge"

def wrongCell : Error :=
  .storage "Invalid column type Text at index: 2, name: embedding"

def create (contents : Contents) : Contents := some (contents.getD [])

def Row.of (entry : Entry) : Row where
  id := pointId entry.text
  text := entry.text
  embedding := .blob (Embedding.bytes entry.vector)
  metadata := (Json.Value.object entry.metadata).render

def Row.updated (new old : Row) : Row :=
  { old with embedding := new.embedding, metadata := new.metadata }

def put (row : Row) : List Row → List Row := Knowledge.put (·.id) row.updated row

def putAll (entries : List Entry) (rows : List Row) : List Row :=
  entries.foldl (fun rows entry => put (Row.of entry) rows) rows

/-- Stored notes; a text that is not a JSON object holds none. -/
def readMetadata (text : String) : Metadata :=
  match Json.Value.ofString? text with
  | some (.object members) => members
  | _ => []

def Row.vector (row : Row) : Except Error Embedding :=
  match row.embedding with
  | .blob bytes => .ok (Embedding.ofBytes bytes)
  | .text _ => .error wrongCell

def Row.hit (vector : Embedding) (row : Row) : Except Error Hit := do
  let stored ← row.vector
  return ⟨row.id.toString, row.text, Embedding.cosine vector stored, readMetadata row.metadata⟩

def search (rows : List Row) (vector : Embedding) (limits : Limits) : Except Error (List Hit) := do
  return Hit.rank limits (← rows.mapM (Row.hit vector))

def rows : Action Contents (List Row) := do
  let some rows ← get | throw noTable
  return rows

def store : Store Contents where
  ensure := modify create
  upsert batch := do
    let entries ← liftExcept batch.entries
    let found ← rows
    set (some (putAll entries found) : Contents)
    return batch.texts.length
  search vector limits := do liftExcept (search (← rows) vector limits)
  count := return (← rows).length
  healthy := pure true

end ClaimAudit.Knowledge.Table
