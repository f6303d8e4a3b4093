/-! Evidence documents: merging sources, and the listing shown to a model. -/

set_option autoImplicit false

namespace ClaimAudit.Evidence

def unique (texts : List String) : List String := texts.eraseDups

def entry (number : Nat) (doc : String) : String := s!"[Document {number}]\n{doc}"

/-- The documents numbered from one, with an empty line between them. -/
def listing (docs : List String) : String :=
  "\n\n".intercalate (docs.zipIdx.map fun (doc, i) => entry (i + 1) doc)

end ClaimAudit.Evidence
