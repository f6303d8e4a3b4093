import ClaimAudit.Evidence
import ClaimAudit.Proofs.TextPieces

/-! What the listing of evidence tells about the documents.

Each entry but the first begins with an empty line and the opening of its heading. Where no document
has such a beginning inside, the first one found is where the first document ends: an occurrence
cannot reach from a document into the entry behind it, since the last character of the mark stands
in it only once. So a listing has one reading, entry by entry.
-/

set_option autoImplicit false

namespace ClaimAudit.Evidence

/-- The empty line in front of an entry, and its heading up to the number. -/
def mark : List Char := "\n\n[Document ".toList

/-- No other entry seems to begin inside of the document. -/
def Plain (doc : String) : Prop := ¬ mark <:+: doc.toList

instance (doc : String) : Decidable (Plain doc) := inferInstanceAs (Decidable (¬ _))

def following (number : Nat) : List String → List Char
  | [] => []
  | doc :: rest =>
    mark ++ ((toString number).toList ++ "]\n".toList ++
      (doc.toList ++ following (number + 1) rest))

variable {number : Nat} {docs others : List String} {first second : List Char}

theorem mark_eq : mark = "\n\n".toList ++ "[Document ".toList := by decide

theorem toList_entry (number : Nat) (doc : String) : (entry number doc).toList =
    "[Document ".toList ++ ((toString number).toList ++ "]\n".toList ++ doc.toList) := by
  have spelled : entry number doc = "[Document " ++ toString number ++ "]\n" ++ doc := rfl
  rw [spelled]
  simp only [String.toList_append, List.append_assoc]

theorem following_cons (number : Nat) (doc : String) (rest : List String) :
    following number (doc :: rest) =
      "\n\n".toList ++ ((entry number doc).toList ++ following (number + 1) rest) := by
  rw [following, mark_eq, toList_entry]
  simp only [List.append_assoc]

theorem following_eq (number : Nat) (doc : String) (rest : List String) :
    following (number + 1) (doc :: rest) = "\n\n".toList ++
      ("\n\n".intercalate (((doc :: rest).zipIdx number).map fun (doc, i) =>
        entry (i + 1) doc)).toList := by
  induction rest generalizing number doc with
  | nil =>
    rw [following_cons, following, List.append_nil, List.zipIdx_singleton, List.map_singleton,
      String.intercalate_singleton]
  | cons other rest ih =>
    rw [following_cons, ih (number + 1) other]
    simp only [List.zipIdx_cons, List.map_cons, String.intercalate_cons_cons, String.toList_append,
      List.append_assoc]

theorem following_one (doc : String) (rest : List String) :
    following 1 (doc :: rest) = "\n\n".toList ++ (listing (doc :: rest)).toList :=
  following_eq 0 doc rest

theorem mark_prefix_following (number : Nat) (doc : String) (rest : List String) :
    mark <+: following number (doc :: rest) := List.prefix_append _ _

theorem listing_ne_empty (doc : String) (rest : List String) : listing (doc :: rest) ≠ "" := by
  intro empty
  have whole := following_one doc rest
  rw [empty] at whole
  have longer := (mark_prefix_following 1 doc rest).length_le
  rw [whole] at longer
  exact absurd longer (by decide)

/-- A document without a mark ends where the next entry begins. -/
theorem splitFirst_following (plain : ¬ mark <:+: first) (number : Nat) (doc : String)
    (rest : List String) :
    ∃ behind, following number (doc :: rest) = mark ++ behind ∧
      Text.splitFirst mark (first ++ following number (doc :: rest)) = some (first, behind) := by
  refine ⟨_, rfl, ?_⟩
  have ends : mark.getLast? = some ' ' := by decide
  have absent : ¬ mark <:+: first ++ mark.dropLast := by
    rwa [Text.infix_append_margin_iff ends (by decide)]
  rw [following, ← List.append_assoc]
  exact Text.splitFirst_append _ absent

theorem eq_of_append_following (plain : ¬ mark <:+: first) (plain' : ¬ mark <:+: second)
    (same : first ++ following number docs = second ++ following number others) :
    first = second ∧ following number docs = following number others := by
  have nowhere {text : List Char} (plain : ¬ mark <:+: text) :
      Text.splitFirst mark (text ++ following number []) = none := by
    rwa [following, List.append_nil, Text.splitFirst_eq_none_iff]
  cases docs with
  | nil =>
    cases others with
    | nil => exact ⟨List.append_cancel_right same, rfl⟩
    | cons doc rest =>
      obtain ⟨_, _, found⟩ := splitFirst_following plain' number doc rest
      rw [← same, nowhere plain] at found
      cases found
  | cons doc rest =>
    obtain ⟨behind, parts, found⟩ := splitFirst_following plain number doc rest
    cases others with
    | nil =>
      rw [same, nowhere plain'] at found
      cases found
    | cons other rest' =>
      obtain ⟨behind', parts', found'⟩ := splitFirst_following plain' number other rest'
      rw [same, found'] at found
      cases found
      exact ⟨rfl, parts.trans parts'.symm⟩

theorem eq_of_following (plain : ∀ doc ∈ docs, Plain doc) (plain' : ∀ doc ∈ others, Plain doc)
    (same : following number docs = following number others) : docs = others := by
  induction docs generalizing number others with
  | nil =>
    cases others with
    | nil => rfl
    | cons other rest => cases List.prefix_nil.mp (same ▸ mark_prefix_following number other rest)
  | cons doc rest ih =>
    cases others with
    | nil => cases List.prefix_nil.mp (same ▸ mark_prefix_following number doc rest)
    | cons other rest' =>
      obtain ⟨first, rest⟩ := List.forall_mem_cons.mp plain
      obtain ⟨first', rest'⟩ := List.forall_mem_cons.mp plain'
      -- Both entries have this number, so their headings are equal.
      have texts := List.append_cancel_left (List.append_cancel_left same)
      obtain ⟨document, onward⟩ := eq_of_append_following first first' texts
      rw [String.toList_inj.mp document, ih rest rest' onward]

/-- Documents without the beginning of another entry can be read back from their listing: two lists
of such documents have one listing only if they are equal. -/
theorem listing_eq_iff (docs others : List String) (plain : ∀ doc ∈ docs, Plain doc)
    (plain' : ∀ doc ∈ others, Plain doc) : listing docs = listing others ↔ docs = others := by
  refine ⟨fun same => ?_, congrArg listing⟩
  cases docs with
  | nil =>
    cases others with
    | nil => rfl
    | cons other rest => exact absurd same.symm (listing_ne_empty other rest)
  | cons doc rest =>
    cases others with
    | nil => exact absurd same (listing_ne_empty doc rest)
    | cons other rest' =>
      have texts : following 1 (doc :: rest) = following 1 (other :: rest') := by
        rw [following_one, following_one, same]
      exact eq_of_following plain plain' texts

/-- Empty documents, line breaks at either end, and a heading behind a single line break. -/
theorem listing_eq_iff_line_breaks :
    let docs := ["", "\n[Document 2]\n", "a\n\n"]
    let others := ["\n", "[Document 2]\n", "a\n\n"]
    (∀ doc ∈ docs, Plain doc) ∧ (∀ doc ∈ others, Plain doc) ∧ listing docs ≠ listing others := by
  intro docs others
  have plain : ∀ doc ∈ docs, Plain doc := by decide +kernel
  have plain' : ∀ doc ∈ others, Plain doc := by decide +kernel
  have differ : docs ≠ others := by decide
  exact ⟨plain, plain', fun same => differ ((listing_eq_iff docs others plain plain').mp same)⟩

/-- A document with the beginning of another entry is listed as two. -/
example : listing ["a\n\n[Document 2]\nb"] = listing ["a", "b"] := by decide +kernel

end ClaimAudit.Evidence
