import ClaimAudit.Embedder
import ClaimAudit.Json.Decode
import ClaimAudit.Knowledge.Store
import ClaimAudit.Text.Utf8

/-! Loading curated documents into a knowledge base. -/

set_option autoImplicit false

namespace ClaimAudit.Knowledge

structure SeedDocument where
  text : String
  category : Option String := none
  source : Option String := none
  deriving DecidableEq, Repr

namespace SeedDocument

def metadata (doc : SeedDocument) : Metadata :=
  [("category", .string (doc.category.getD "general")),
   ("source", .string (doc.source.getD "unknown"))]

def json (doc : SeedDocument) : Json.Value := .object
  [("text", .string doc.text),
   ("category", .ofOption .string doc.category),
   ("source", .ofOption .string doc.source)]

def decode : Json.Decoder SeedDocument := fun source tree => do
  let f ← Json.Decode.fields ["text", "category", "source"] source tree
  return { text := ← f.required "text" Json.Decode.string
           category := ← f.orElse "category" none (Json.Decode.optional Json.Decode.string)
           source := ← f.orElse "source" none (Json.Decode.optional Json.Decode.string) }

def listOfString (text : String) : Except Error (List SeedDocument) :=
  match Json.Decode.text (Json.Decode.list decode) text with
  | some docs => .ok docs
  | none => .error (.serialization "the text is not a list of documents")

def listOfFile (path : String) (content : Except String (List UInt8)) :
    Except Error (List SeedDocument) :=
  let unreadable (reason : String) : Error :=
    .configuration s!"Seed data file not readable: {path}: {reason}"
  match content with
  | .error reason => .error (unreadable reason)
  | .ok bytes =>
    match Text.Utf8.strict? bytes with
    | none => .error (unreadable "stream did not contain valid UTF-8")
    | some text => listOfString text

end SeedDocument

/-- Embed documents and store them; how many. Without documents nothing is touched. -/
def seed {σ : Type} (embedder : Embedder σ) (store : Store σ) (docs : List SeedDocument) :
    Action σ Nat := do
  if docs.isEmpty then return 0
  store.ensure
  let texts := docs.map (·.text)
  let vectors ← embedder.embed texts
  store.upsert ⟨texts, vectors, docs.map SeedDocument.metadata⟩

end ClaimAudit.Knowledge
