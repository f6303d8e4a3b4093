import ClaimAudit.Knowledge.Memory
import ClaimAudit.Knowledge.Table
import Mathlib.Data.List.Sort

/-! The best hits of a search.

A ranking puts the points that reach the threshold in descending order of their scores and cuts
that list. What stands behind the cut is no better than what stands before it, so nothing better
is left out. Points of one score may be in any order, and a cut among them may keep any of them;
apart from that all rankings of the same points agree.
-/

set_option autoImplicit false

namespace ClaimAudit

namespace Number.Single

variable {x y : Single}

def order? (x y : Single) : Option Ordering :=
  if x.isNumber && y.isNumber then some (compare x.place y.place) else none

theorem order?_of_isNumber (hx : x.isNumber = true) (hy : y.isNumber = true) :
    x.order? y = some (compare x.place y.place) := by
  rw [order?, hx, hy]
  rfl

theorem atMost_eq (hx : x.isNumber = true) (hy : y.isNumber = true) :
    x.atMost y = decide (x.place ≤ y.place) := by
  rw [atMost, hx, hy, Bool.and_self, Bool.true_and]

theorem isNumber_of_atMost (reached : x.atMost y = true) :
    x.isNumber = true ∧ y.isNumber = true := by
  simp only [atMost, Bool.and_eq_true] at reached
  exact reached.1

end Number.Single

namespace Knowledge

open ClaimAudit.Number (Single)

/-- A ranking of points: those that reach the threshold, best first, up to the cut. -/
def Ranking {α : Type} (score : α → Single) (limits : Limits) (stored chosen : List α) : Prop :=
  ∃ ranked : List α, ranked.Perm (stored.filter fun p => limits.threshold.atMost (score p)) ∧
    (ranked.Pairwise fun p q => (score q).place ≤ (score p).place) ∧
    chosen = ranked.take limits.topK

/-- A selection of the best: no more than were asked for, each a point of its own whose score is a
number that reaches the threshold, best first; and every point that is left did not reach the
threshold, or is no better than any of a full number of others. -/
structure Selects {α : Type} (score : α → Single) (limits : Limits) (stored chosen : List α) :
    Prop where
  bounded : chosen.length ≤ limits.topK
  numbered : ∀ p ∈ chosen, (score p).isNumber = true
  reached : ∀ p ∈ chosen, limits.threshold.atMost (score p) = true
  descending : chosen.Pairwise fun p q => (score q).atMost (score p) = true
  complete : ∃ left, (chosen ++ left).Perm stored ∧ ∀ p ∈ left,
    limits.threshold.atMost (score p) = false ∨
      (chosen.length = limits.topK ∧ ∀ q ∈ chosen, (score p).atMost (score q) = true)

/-- Two results of one search agree: they have the same scores in the same order, the same points
above each of these, and the same points altogether unless there were more than asked for. -/
structure Agree {α : Type} (score : α → Single) (limits : Limits) (first second : List α) :
    Prop where
  places : first.map (fun p => (score p).place) = second.map fun p => (score p).place
  above : ∀ worst ∈ first, (first.filter fun p => (score worst).place < (score p).place).Perm
    (second.filter fun p => (score worst).place < (score p).place)
  uncut : first.length < limits.topK → first.Perm second

section Rankings

variable {α β : Type} {score : α → Single} {limits : Limits} {stored chosen picked : List α}

theorem Ranking.selects (ranking : Ranking score limits stored chosen) :
    Selects score limits stored chosen := by
  obtain ⟨ranked, permuted, sorted, rfl⟩ := ranking
  have reached : ∀ p ∈ ranked, limits.threshold.atMost (score p) = true := fun p member =>
    (List.mem_filter.mp (permuted.mem_iff.mp member)).2
  have numbered : ∀ p ∈ ranked, (score p).isNumber = true := fun p member =>
    (Single.isNumber_of_atMost (reached p member)).2
  have descending : ranked.Pairwise fun p q => (score q).atMost (score p) = true :=
    sorted.imp_of_mem fun first second lower => by
      rw [Single.atMost_eq (numbered _ second) (numbered _ first)]
      exact decide_eq_true lower
  refine ⟨List.length_take_le _ _, fun p member => numbered p (List.mem_of_mem_take member),
    fun p member => reached p (List.mem_of_mem_take member), descending.take,
    ranked.drop limits.topK ++ stored.filter fun p => !limits.threshold.atMost (score p), ?_, ?_⟩
  · rw [← List.append_assoc, List.take_append_drop]
    exact (permuted.append_right _).trans (List.filter_append_perm _ _)
  · intro p member
    rcases List.mem_append.mp member with behind | below
    · -- Something stands behind the cut, so there is a full number before it.
      have full : (ranked.take limits.topK).length = limits.topK := by
        have more := List.length_pos_of_mem behind
        rw [List.length_drop] at more
        rw [List.length_take]
        omega
      refine .inr ⟨full, fun q before => ?_⟩
      rw [← List.take_append_drop limits.topK ranked, List.pairwise_append] at descending
      exact descending.2.2 q before p behind
    · exact .inl (by simpa using (List.mem_filter.mp below).2)

theorem Ranking.perm {others : List α} (ranking : Ranking score limits stored chosen)
    (same : stored.Perm others) : Ranking score limits others chosen := by
  obtain ⟨ranked, permuted, sorted, rfl⟩ := ranking
  exact ⟨ranked, permuted.trans (same.filter _), sorted, rfl⟩

theorem filter_take_eq {ranked : List α} {worst : α} {n : Nat}
    (sorted : ranked.Pairwise fun p q => (score q).place ≤ (score p).place)
    (member : worst ∈ ranked.take n) :
    (ranked.take n).filter (fun p => (score worst).place < (score p).place) =
      ranked.filter fun p => (score worst).place < (score p).place := by
  rw [← List.take_append_drop n ranked, List.pairwise_append] at sorted
  -- Nothing behind the cut is better than what stands before it.
  have behind : (ranked.drop n).filter (fun p => (score worst).place < (score p).place) = [] := by
    rw [List.filter_eq_nil_iff]
    intro p dropped
    have lower := sorted.2.2 worst member p dropped
    simpa using lower
  conv_rhs => rw [← List.take_append_drop n ranked, List.filter_append, behind, List.append_nil]

theorem Ranking.agree (first : Ranking score limits stored chosen)
    (second : Ranking score limits stored picked) : Agree score limits chosen picked := by
  obtain ⟨one, onePerm, oneSorted, rfl⟩ := first
  obtain ⟨other, otherPerm, otherSorted, rfl⟩ := second
  have same := onePerm.trans otherPerm.symm
  have places : one.map (fun p => (score p).place) = other.map fun p => (score p).place := by
    have oneFalls : (one.map fun p => (score p).place).Pairwise (· ≥ ·) :=
      List.pairwise_map.mpr oneSorted
    have otherFalls : (other.map fun p => (score p).place).Pairwise (· ≥ ·) :=
      List.pairwise_map.mpr otherSorted
    exact (same.map _).eq_of_pairwise (fun _ _ _ _ ab ba => le_antisymm ba ab) oneFalls otherFalls
  have takenPlaces : (one.take limits.topK).map (fun p => (score p).place) =
      (other.take limits.topK).map fun p => (score p).place := by
    rw [List.map_take, List.map_take, places]
  refine ⟨takenPlaces, fun worst member => ?_, fun few => ?_⟩
  · -- The other result has a point of the same score, and so the same points stand above it.
    have place := List.mem_map_of_mem (f := fun p => (score p).place) member
    rw [takenPlaces, List.mem_map] at place
    obtain ⟨peer, peerMember, peerPlace⟩ := place
    have filtered := filter_take_eq otherSorted peerMember
    simp only [peerPlace] at filtered
    rw [filter_take_eq oneSorted member, filtered]
    exact same.filter _
  · rw [List.length_take] at few
    have oneWhole : one.take limits.topK = one := List.take_of_length_le (by omega)
    have otherWhole : other.take limits.topK = other :=
      List.take_of_length_le (by rw [← same.length_eq]; omega)
    rw [oneWhole, otherWhole]
    exact same

theorem Selects.nodup_map (selects : Selects score limits stored chosen) {f : α → β}
    (distinct : (stored.map f).Nodup) : (chosen.map f).Nodup := by
  obtain ⟨left, parts, _⟩ := selects.complete
  have whole := (parts.map f).nodup_iff.mpr distinct
  rw [List.map_append] at whole
  exact whole.of_append_left

end Rankings

namespace Hit

variable {limits : Limits}

/-- How a search compares hits: the one of the higher score comes first, and hits whose scores do
not compare count as equal. -/
def comparison (a b : Hit) : Ordering := (b.score.order? a.score).getD .eq

theorem comparison_of_isNumber {a b : Hit} (ha : a.score.isNumber = true)
    (hb : b.score.isNumber = true) : comparison a b = compare b.score.place a.score.place := by
  rw [comparison, Single.order?_of_isNumber hb ha]
  rfl

theorem before_eq {a b : Hit} (ha : a.score.isNumber = true) (hb : b.score.isNumber = true) :
    a.before b = (comparison a b).isLE := by
  rw [comparison_of_isNumber ha hb, before, Bool.eq_iff_iff, decide_eq_true_iff, Int.isLE_compare]

theorem ranking_rank (limits : Limits) (hits : List Hit) :
    Ranking score limits hits (rank limits hits) :=
  ⟨_, List.mergeSort_perm _ _, (List.pairwise_mergeSort before_trans before_total _).imp
    of_decide_eq_true, rfl⟩

theorem rank_map {α : Type} (hit : α → Hit) (limits : Limits) (stored : List α) :
    ∃ chosen, rank limits (stored.map hit) = chosen.map hit ∧
      Ranking (fun p => (hit p).score) limits stored chosen := by
  have sorted : ((stored.filter fun p => limits.threshold.atMost (hit p).score).mergeSort
      fun p q => (hit p).before (hit q)).Pairwise fun p q => (hit p).before (hit q) :=
    List.pairwise_mergeSort (fun a b c => before_trans (hit a) (hit b) (hit c))
      (fun a b => before_total (hit a) (hit b)) _
  -- Sorting the hits is sorting the points by what their hits are.
  have moved := List.map_mergeSort (f := hit) (r := fun p q => (hit p).before (hit q))
    (s := before) (l := stored.filter fun p => limits.threshold.atMost (hit p).score)
    fun _ _ _ _ => rfl
  refine ⟨_, ?_, _, List.mergeSort_perm _ _, sorted.imp of_decide_eq_true, rfl⟩
  rw [List.map_take, moved, rank, List.filter_map]
  rfl

theorem isNumber_of_admitted {hits : List Hit} {a : Hit}
    (member : a ∈ hits.filter (admitted limits.threshold)) : a.score.isNumber = true :=
  (Single.isNumber_of_atMost (List.mem_filter.mp member).2).2

-- What is no number compares with nothing, but reaches no threshold either.
theorem transCmp_comparison (limits : Limits) (hits : List Hit) :
    Std.TransCmp fun a b : { hit // hit ∈ hits.filter (admitted limits.threshold) } =>
      comparison a.val b.val where
  eq_swap {a b} := by
    have ha := isNumber_of_admitted a.property
    have hb := isNumber_of_admitted b.property
    rw [comparison_of_isNumber ha hb, comparison_of_isNumber hb ha]
    exact Std.OrientedCmp.eq_swap
  isLE_trans {a b c} := by
    have ha := isNumber_of_admitted a.property
    have hb := isNumber_of_admitted b.property
    have hc := isNumber_of_admitted c.property
    rw [← before_eq ha hb, ← before_eq hb hc, ← before_eq ha hc]
    exact before_trans a.val b.val c.val

theorem rank_eq (limits : Limits) (hits : List Hit) :
    rank limits hits = ((hits.filter (admitted limits.threshold)).mergeSort fun a b =>
      (comparison a b).isLE).take limits.topK := by
  have same := List.map_mergeSort (f := fun hit => hit) (r := before)
    (s := fun a b => (comparison a b).isLE) (l := hits.filter (admitted limits.threshold))
    fun a first b second => before_eq (isNumber_of_admitted first) (isNumber_of_admitted second)
  rw [List.map_id', List.map_id'] at same
  rw [rank, same]

end Hit

namespace Memory

theorem search_ranks (points : Points) (vector : Embedding) (limits : Limits) :
    ∃ chosen, search points vector limits = chosen.map (fun p => hit vector p.1 p.2) ∧
      Ranking (fun p => Embedding.cosine vector p.2.vector) limits points chosen := by
  obtain ⟨chosen, hits, ranking⟩ := Hit.rank_map (fun p => hit vector p.1 p.2) limits points
  exact ⟨chosen, hits, ranking⟩

theorem run_search (points : Points) (vector : Embedding) (limits : Limits) :
    (store.search vector limits).run points = (.ok (search points vector limits), points) := rfl

end Memory

namespace Table

-- The vector in a row; where it cannot be read, none.
def Row.stored (row : Row) : Embedding :=
  match row.embedding with
  | .blob bytes => Embedding.ofBytes bytes
  | .text _ => []

def Row.found (vector : Embedding) (row : Row) : Hit :=
  ⟨row.id.toString, row.text, Embedding.cosine vector row.stored, readMetadata row.metadata⟩

theorem Row.vector_eq_ok_iff {row : Row} :
    row.vector = .ok row.stored ↔ ∃ bytes, row.embedding = .blob bytes := by
  rw [Row.vector, Row.stored]
  cases row.embedding <;> simp

theorem Row.vector_eq_error_iff {row : Row} :
    row.vector = .error wrongCell ↔ ∃ value, row.embedding = .text value := by
  rw [Row.vector]
  cases row.embedding <;> simp

/-- The notes of a row: the members of the JSON object that it has as a text, or none. -/
inductive Row.Notes (row : Row) : Metadata → Prop where
  | object {notes : Metadata} (read : Json.Value.ofString? row.metadata = some (.object notes)) :
    row.Notes notes
  | none (other : ∀ notes, Json.Value.ofString? row.metadata ≠ some (.object notes)) : row.Notes []

theorem Row.notes_readMetadata (row : Row) : row.Notes (readMetadata row.metadata) := by
  unfold readMetadata
  split
  case h_1 read => exact .object read
  case h_2 other => exact .none other

/-- A hit that shows a row and how close its vector is. -/
structure Row.Shows (vector : Embedding) (row : Row) (hit : Hit) : Prop where
  id : hit.id = row.id.toString
  text : hit.text = row.text
  score : hit.score = Embedding.cosine vector row.stored
  notes : row.Notes hit.metadata

theorem forall₂_shows (vector : Embedding) (rows : List Row) :
    List.Forall₂ (Row.Shows vector) rows (rows.map (Row.found vector)) :=
  List.forall₂_map_right_iff.mpr
    (List.forall₂_same.mpr fun row _ => ⟨rfl, rfl, rfl, row.notes_readMetadata⟩)

theorem mapM_hit (vector : Embedding) (rows : List Row) :
    ((∀ row ∈ rows, row.vector = .ok row.stored) ∧
        rows.mapM (Row.hit vector) = .ok (rows.map (Row.found vector))) ∨
      ((∃ row ∈ rows, row.vector = .error wrongCell) ∧
        rows.mapM (Row.hit vector) = .error wrongCell) := by
  induction rows with
  | nil => exact .inl ⟨List.forall_mem_nil _, rfl⟩
  | cons row rows ih =>
    rw [List.mapM_cons]
    cases cell : row.embedding with
    | text _ =>
      have unread : row.vector = .error wrongCell := by rw [Row.vector, cell]
      refine .inr ⟨⟨row, List.mem_cons_self, unread⟩, ?_⟩
      rw [Row.hit, unread]
      rfl
    | blob bytes =>
      have read : row.vector = .ok row.stored := by rw [Row.vector, Row.stored, cell]
      have this : Row.hit vector row = .ok (row.found vector) := by
        rw [Row.hit, read]
        rfl
      rw [this]
      obtain ⟨readable, others⟩ | ⟨⟨other, member, unread⟩, stops⟩ := ih
      · refine .inl ⟨List.forall_mem_cons.mpr ⟨read, readable⟩, ?_⟩
        rw [others]
        rfl
      · refine .inr ⟨⟨other, List.mem_cons_of_mem _ member, unread⟩, ?_⟩
        rw [stops]
        rfl

theorem run_search (rows : List Row) (vector : Embedding) (limits : Limits) :
    (store.search vector limits).run (some rows) = (search rows vector limits, some rows) := by
  cases outcome : search rows vector limits <;>
    simp [store, Table.rows, outcome, liftExcept, Action.run_bind] <;> rfl

theorem search_ranks {rows : List Row} {vector : Embedding} {limits : Limits}
    (readable : rows.mapM (Row.hit vector) = .ok (rows.map (Row.found vector))) :
    ∃ chosen, search rows vector limits = .ok (chosen.map (Row.found vector)) ∧
      Ranking (fun row => Embedding.cosine vector row.stored) limits rows chosen := by
  obtain ⟨chosen, hits, ranking⟩ := Hit.rank_map (Row.found vector) limits rows
  refine ⟨chosen, ?_, ranking⟩
  rw [search, readable, ← hits]
  rfl

end Table

/-- A search returns the best stored points and only those, each as it is stored and with its score:
over any contents, for any query, any number of hits and any threshold, numbers or not. In a table,
a vector that cannot be read stops the search. -/
theorem search_selects (vector : Embedding) (limits : Limits) :
    (∀ points : Memory.Points, ∃ chosen,
      (Memory.store.search vector limits).run points =
          (.ok (chosen.map fun (id, entry) =>
            ⟨id.toString, entry.text, Embedding.cosine vector entry.vector, entry.metadata⟩),
          points) ∧
        Selects (fun p => Embedding.cosine vector p.2.vector) limits points chosen ∧
        ((points.map (·.1)).Nodup → (chosen.map (·.1)).Nodup)) ∧
    (∀ rows : List Table.Row,
      ((∃ row ∈ rows, ∃ value, row.embedding = .text value) ∧
        (Table.store.search vector limits).run (some rows) =
          (.error Table.wrongCell, some rows)) ∨
      ((∀ row ∈ rows, ∃ bytes, row.embedding = .blob bytes) ∧ ∃ chosen hits,
        (Table.store.search vector limits).run (some rows) = (.ok hits, some rows) ∧
          List.Forall₂ (Table.Row.Shows vector) chosen hits ∧
          Selects (fun row => Embedding.cosine vector row.stored) limits rows chosen ∧
          ((rows.map (·.id)).Nodup → (chosen.map (·.id)).Nodup))) ∧
    ∀ hits : List Hit,
      (Std.TransCmp fun a b : { hit // hit ∈ hits.filter (Hit.admitted limits.threshold) } =>
        Hit.comparison a.val b.val) ∧
      Hit.rank limits hits = ((hits.filter (Hit.admitted limits.threshold)).mergeSort fun a b =>
        (Hit.comparison a b).isLE).take limits.topK := by
  refine ⟨fun points => ?_, fun rows => ?_, fun hits =>
    ⟨Hit.transCmp_comparison limits hits, Hit.rank_eq limits hits⟩⟩
  · obtain ⟨chosen, hits, ranking⟩ := Memory.search_ranks points vector limits
    refine ⟨chosen, ?_, ranking.selects, ranking.selects.nodup_map⟩
    rw [Memory.run_search, hits]
    rfl
  · rw [Table.run_search]
    obtain ⟨readable, hits⟩ | ⟨unreadable, stops⟩ := Table.mapM_hit vector rows
    · obtain ⟨chosen, found, ranking⟩ := Table.search_ranks hits
      exact .inr ⟨fun row member => Table.Row.vector_eq_ok_iff.mp (readable row member), chosen, _,
        by rw [found], Table.forall₂_shows vector chosen, ranking.selects,
        ranking.selects.nodup_map⟩
    · obtain ⟨row, member, unread⟩ := unreadable
      refine .inl ⟨⟨row, member, Table.Row.vector_eq_error_iff.mp unread⟩, ?_⟩
      rw [Table.search, stops]
      rfl

end Knowledge

end ClaimAudit
