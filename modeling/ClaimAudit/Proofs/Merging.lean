import ClaimAudit.Proofs.Retrieval
import Mathlib.Data.Finset.Insert

/-! What merging keeps of texts.

One pass that remembers the texts it has seen keeps each text where it is seen first, and there is
one list only that does so. It makes no difference whether a part is merged beforehand, and texts
behind others only add to the end.
-/

set_option autoImplicit false

namespace ClaimAudit.Evidence

variable {texts kept : List String}

/-- The texts that are new to a pass that remembers every text it has seen. -/
def keepNew (seen : Finset String) : List String → List String
  | [] => []
  | text :: rest =>
    if text ∈ seen then keepNew (insert text seen) rest
    else text :: keepNew (insert text seen) rest

theorem keepNew_eq_filter (seen : Finset String) (texts : List String) :
    keepNew seen texts = (unique texts).filter (· ∉ seen) := by
  induction texts generalizing seen with
  | nil => rfl
  | cons text rest ih =>
    -- The text counts as seen from here on, so it goes from the rest, as it does in the merge.
    have behind : keepNew (insert text seen) rest =
        ((unique rest).filter (!· == text)).filter (· ∉ seen) := by
      rw [ih, List.filter_filter]
      refine List.filter_congr fun other _ => ?_
      by_cases same : other = text <;> simp [same]
    rw [keepNew, unique_cons]
    split
    case isTrue known => rw [behind, List.filter_cons_of_neg (by simpa using known)]
    case isFalse new => rw [behind, List.filter_cons_of_pos (by simpa using new)]

theorem keepNew_empty (texts : List String) : keepNew ∅ texts = unique texts := by
  rw [keepNew_eq_filter, List.filter_eq_self]
  exact fun text _ => decide_eq_true (Finset.notMem_empty text)

theorem Deduplicates.eq {other : List String} (one : Deduplicates texts kept)
    (another : Deduplicates texts other) : kept = other := by
  have permuted : kept.Perm other :=
    (List.perm_ext_iff_of_nodup one.distinct another.distinct).mpr fun text =>
      (one.complete text).trans (another.complete text).symm
  exact permuted.eq_of_pairwise (fun _ _ _ _ earlier later => absurd later earlier.asymm)
    one.inOrder another.inOrder

theorem deduplicates_iff : Deduplicates texts kept ↔ kept = unique texts := by
  constructor
  · exact fun deduplicates => deduplicates.eq (deduplicates_unique texts)
  · rintro rfl
    exact deduplicates_unique texts

theorem unique_sublist (texts : List String) : (unique texts).Sublist texts := by
  induction texts with
  | nil => exact .slnil
  | cons text rest ih =>
    rw [unique_cons]
    exact (List.filter_sublist.trans ih).cons_cons text

theorem unique_unique (texts : List String) : unique (unique texts) = unique texts :=
  unique_of_nodup (nodup_unique texts)

theorem unique_unique_append (texts others : List String) :
    unique (unique texts ++ others) = unique (texts ++ others) := by
  rw [unique_append, unique_append, unique_unique]
  simp only [mem_unique]

theorem unique_prefix (texts others : List String) : unique texts <+: unique (texts ++ others) := by
  rw [unique_append]
  exact List.prefix_append _ _

/-- Merging is the pass that begins with nothing seen. It lists no text twice, in the order of the
texts, and leaves none out; no other list has each text where it is seen first. Merging twice is
merging once, also where only a part is merged beforehand, and the merge of a first part begins that
of the whole. -/
theorem unique_keeps_first_occurrences (texts others : List String) :
    keepNew ∅ texts = unique texts ∧
    (unique texts).Nodup ∧ (unique texts).Sublist texts ∧ texts ⊆ unique texts ∧
    (∀ kept, Deduplicates texts kept ↔ kept = unique texts) ∧
    unique (unique texts) = unique texts ∧
    unique (unique texts ++ others) = unique (texts ++ others) ∧
    unique (texts ++ unique others) = unique (texts ++ others) ∧
    unique texts <+: unique (texts ++ others) := by
  refine ⟨keepNew_empty texts, nodup_unique texts, unique_sublist texts, ?_,
    fun _ => deduplicates_iff, unique_unique texts, unique_unique_append texts others,
    unique_append_unique texts others, unique_prefix texts others⟩
  exact fun text member => mem_unique.mpr member

example : unique ["b", "a", "b", "c", "a"] = ["b", "a", "c"] := by decide

end ClaimAudit.Evidence
