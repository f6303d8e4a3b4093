import ClaimAudit.Batches
import ClaimAudit.Number.Single

/-! Embeddings: vectors that stand for texts, their similarity, and their bytes. -/

set_option autoImplicit false

namespace ClaimAudit

open ClaimAudit.Number (Single)

abbrev Embedding := List Single

namespace Embedding

/-- A sum from left to right in 32-bit arithmetic. It starts at the negative zero,
the one number that leaves every other as it is when added. -/
def sum (terms : List Float32) : Float32 := terms.foldl (· + ·) (-0.0)

def dot (a b : Embedding) : Float32 :=
  sum (List.zipWith (fun x y => x.toFloat32 * y.toFloat32) a b)

def norm (a : Embedding) : Float32 := (dot a a).sqrt

/-- Cosine similarity. Vectors that have no common direction, or no direction at
all, are not similar. -/
def cosine (a b : Embedding) : Single :=
  if a.length ≠ b.length ∨ a = [] then .zero
  else
    let normA := norm a
    let normB := norm b
    if normA == 0 || normB == 0 then .zero
    else .ofFloat32 (dot a b / (normA * normB))

/-- The four bytes of a number, least significant first. -/
def singleBytes (x : Single) : List UInt8 :=
  [x.bits.toUInt8, (x.bits >>> 8).toUInt8, (x.bits >>> 16).toUInt8, (x.bits >>> 24).toUInt8]

def bytes (v : Embedding) : List UInt8 := v.flatMap singleBytes

/-- The vector that whole groups of four bytes spell; up to three bytes are left over. -/
def ofBytes : List UInt8 → Embedding
  | a :: b :: c :: d :: rest =>
    ⟨a.toUInt32 ||| b.toUInt32 <<< 8 ||| c.toUInt32 <<< 16 ||| d.toUInt32 <<< 24⟩ :: ofBytes rest
  | _ => []

end Embedding

end ClaimAudit
