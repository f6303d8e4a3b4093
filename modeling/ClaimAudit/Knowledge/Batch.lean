import ClaimAudit.Embedding
import ClaimAudit.Error
import ClaimAudit.Json.Value

/-! Batches of texts on their way into a knowledge base. -/

set_option autoImplicit false

namespace ClaimAudit.Knowledge

abbrev Metadata := Json.Members

structure Entry where
  text : String
  vector : Embedding
  metadata : Metadata

structure Batch where
  texts : List String
  vectors : List Embedding
  metadata : List Metadata

namespace Batch

inductive Problem where
  | vectorCount (texts vectors : Nat)
  | metadataCount (notes texts : Nat)
  deriving DecidableEq, Repr

def Problem.error : Problem → Error
  | .vectorCount texts vectors =>
    .vectorStore s!"texts ({texts}) and vectors ({vectors}) must have same length"
  | .metadataCount notes texts =>
    .vectorStore s!"metadata ({notes}) must be empty or match texts ({texts})"

def problem? (b : Batch) : Option Problem :=
  if b.texts.length ≠ b.vectors.length then some (.vectorCount b.texts.length b.vectors.length)
  else if !b.metadata.isEmpty ∧ b.metadata.length ≠ b.texts.length then
    some (.metadataCount b.metadata.length b.texts.length)
  else none

/-- The notes of each text; without any, all are empty. -/
def notes (b : Batch) : List Metadata :=
  if b.metadata.isEmpty then b.texts.map fun _ => [] else b.metadata

def joined (b : Batch) : List Entry :=
  List.zipWith (fun (text, vector) metadata => ⟨text, vector, metadata⟩)
    (b.texts.zip b.vectors) b.notes

def entries (b : Batch) : Except Error (List Entry) :=
  match b.problem? with
  | some problem => .error problem.error
  | none => .ok b.joined

theorem length_joined {b : Batch} (sound : b.problem? = none) :
    b.joined.length = b.texts.length := by
  unfold problem? at sound
  split at sound
  · cases sound
  · split at sound
    · cases sound
    · rename_i same shape
      simp only [joined, List.length_zipWith, List.length_zip, notes]
      split
      · simp_all
      · simp_all

end Batch

end ClaimAudit.Knowledge
