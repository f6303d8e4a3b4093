import ClaimAudit.Proofs.Catalog
import ClaimAudit.Retriever

/-!
Hits of one score.

A knowledge base in memory lists its points in no order of its own, and a search leaves hits of
one score in the order of the listing. So two searches of the same points agree in the scores
and in what stands above each score, but not in the order of a tie, nor in what a cut through a
tie keeps. A search is the same for all listings exactly when every tie lies behind the cut.
-/

set_option autoImplicit false

namespace ClaimAudit

namespace Knowledge

open ClaimAudit.Number (Single)

section Ties

variable {α β : Type} {score : α → Single} {limits : Limits} {stored chosen picked : List α}

/-- The points that reach the threshold with a higher score than a point has. -/
def better (score : α → Single) (limits : Limits) (stored : List α) (p : α) : List α :=
  stored.filter fun q => decide ((score p).place < (score q).place) &&
    limits.threshold.atMost (score q)

/-- Every tie lies behind the cut: where two points that reach the threshold have one score,
there is a full number of better ones. -/
def Decided (score : α → Single) (limits : Limits) (stored : List α) : Prop :=
  ∀ p ∈ stored, ∀ q ∈ stored, p ≠ q → limits.threshold.atMost (score p) = true →
    limits.threshold.atMost (score q) = true → (score p).place = (score q).place →
    limits.topK ≤ (better score limits stored p).length

theorem length_better_map (score : α → Single) (limits : Limits) (f : β → α) (stored : List β)
    (p : β) : (better score limits (stored.map f) (f p)).length =
      (better (fun q => score (f q)) limits stored p).length := by
  rw [better, List.filter_map, List.length_map]
  rfl

theorem better_cons_of_le {p q : α} (lower : (score q).place ≤ (score p).place) :
    better score limits (q :: stored) p = better score limits stored p :=
  List.filter_cons_of_neg (by simp [lower])

theorem length_better_of_tied {p q : α} {rest : List α} (same : stored.Perm (p :: q :: rest))
    (place : (score p).place = (score q).place) :
    (better score limits stored p).length = (better score limits rest p).length := by
  have alike : (better score limits stored p).length =
      (better score limits (p :: q :: rest) p).length := (same.filter _).length_eq
  rw [alike, better_cons_of_le (Int.le_refl _), better_cons_of_le (Int.le_of_eq place.symm)]

/-- In a sorted list only the points before a point are better. -/
theorem length_better_le {ranked : List α}
    (permuted : ranked.Perm (stored.filter fun p => limits.threshold.atMost (score p)))
    (sorted : ranked.Pairwise fun p q => (score q).place ≤ (score p).place) {i : Nat}
    (inside : i < ranked.length) : (better score limits stored ranked[i]).length ≤ i := by
  have last : ranked[i] ∈ ranked.take (i + 1) :=
    List.mem_take_iff_getElem.mpr ⟨i, by omega, rfl⟩
  have before := filter_take_eq sorted last
  rw [better, ← List.filter_filter, ← (permuted.filter _).length_eq, ← before]
  -- The point is not better than itself.
  have fewer : ((ranked.take (i + 1)).filter fun p =>
      decide ((score ranked[i]).place < (score p).place)).length < (ranked.take (i + 1)).length :=
    List.length_filter_lt_length_iff_exists.mpr ⟨ranked[i], last, by simp⟩
  exact Nat.lt_succ_iff.mp (fewer.trans_le (List.length_take_le _ _))

theorem Ranking.eq_of_decided (decided : Decided score limits stored)
    (first : Ranking score limits stored chosen) (second : Ranking score limits stored picked) :
    chosen = picked := by
  have places := (first.agree second).places
  obtain ⟨one, onePermuted, oneSorted, rfl⟩ := first
  obtain ⟨other, otherPermuted, _, rfl⟩ := second
  have lengths := congrArg List.length places
  rw [List.length_map, List.length_map] at lengths
  refine List.ext_getElem lengths fun i inside inside' => ?_
  by_contra different
  have place : (score (one.take limits.topK)[i]).place =
      (score (other.take limits.topK)[i]).place := by
    have same := List.getElem_of_eq places (i := i) (by rwa [List.length_map])
    rwa [List.getElem_map, List.getElem_map] at same
  rw [List.getElem_take] at different place
  rw [List.getElem_take] at different place
  have within : i < limits.topK ∧ i < one.length := by simpa using inside
  have within' : i < other.length := by
    rw [List.length_take] at inside'
    omega
  obtain ⟨member, reached⟩ := List.mem_filter.mp
    (onePermuted.mem_iff.mp (List.getElem_mem within.2))
  obtain ⟨member', reached'⟩ := List.mem_filter.mp
    (otherPermuted.mem_iff.mp (List.getElem_mem within'))
  have full := decided _ member _ member' different reached reached' place
  -- As many better points as are asked for do not go before a point that is found.
  have few := length_better_le onePermuted oneSorted within.2
  omega

end Ties

namespace Hit

variable {limits : Limits} {a b : Hit} {rest : List Hit}

/-- Of the hits of its score the one that is listed first comes first, behind the better ones. -/
theorem getElem?_rank_cons (reached : a.admitted limits.threshold = true)
    (cut : (better score limits rest a).length < limits.topK) :
    (rank limits (a :: rest))[(better score limits rest a).length]? = some a := by
  rw [rank, List.filter_cons_of_pos reached]
  have sorted := List.pairwise_mergeSort before_trans before_total
    (a :: rest.filter (admitted limits.threshold))
  have permuted := List.mergeSort_perm (rest.filter (admitted limits.threshold)) before
  obtain ⟨front, back, whole, others, higher⟩ := List.mergeSort_cons before_trans before_total a
    (rest.filter (admitted limits.threshold))
  rw [whole] at sorted ⊢
  rw [others] at permuted
  have passed : front.filter (fun q => decide (a.score.place < q.score.place)) = front := by
    refine List.filter_eq_self.mpr fun q member => ?_
    simpa [before] using higher q member
  have none : back.filter (fun q => decide (a.score.place < q.score.place)) = [] := by
    refine List.filter_eq_nil_iff.mpr fun q member => ?_
    have lower := (List.pairwise_cons.mp (List.pairwise_append.mp sorted).2.1).1 q member
    simpa [before] using lower
  have count : (better score limits rest a).length = front.length := by
    rw [better, ← List.filter_filter]
    show ((rest.filter (admitted limits.threshold)).filter _).length = _
    rw [← (permuted.filter _).length_eq, List.filter_append, passed, none, List.append_nil]
  rw [count] at cut ⊢
  rw [List.getElem?_take_of_lt cut, List.getElem?_append_right (Nat.le_refl _), Nat.sub_self]
  rfl

theorem rank_swap_ne (different : a ≠ b) (reached : a.admitted limits.threshold = true)
    (reached' : b.admitted limits.threshold = true) (place : a.score.place = b.score.place)
    (cut : (better score limits rest a).length < limits.topK) :
    rank limits (a :: b :: rest) ≠ rank limits (b :: a :: rest) := by
  intro same
  have peer : better score limits rest b = better score limits rest a := by
    rw [better, better, place]
  have first : better score limits (b :: rest) a = better score limits rest a :=
    better_cons_of_le (Int.le_of_eq place.symm)
  have second : better score limits (a :: rest) b = better score limits rest a :=
    (better_cons_of_le (Int.le_of_eq place)).trans peer
  have one := getElem?_rank_cons reached (first.symm ▸ cut)
  have other := getElem?_rank_cons reached' (second.symm ▸ cut)
  rw [first] at one
  rw [second, ← same, one] at other
  exact different (Option.some.inj other)

end Hit

namespace Memory

variable {points others : Points} {vector : Embedding} {limits : Limits}

structure Sound (points : Points) : Prop where
  ids : ∀ p ∈ points, p.1 = pointId p.2.text
  distinct : (points.map (·.1)).Nodup

theorem Sound.texts (sound : Sound points) : (points.map (·.2.text)).Nodup := by
  have same : points.map (·.1) = (points.map (·.2.text)).map pointId := by
    rw [List.map_map]
    exact List.map_congr_left sound.ids
  exact (same ▸ sound.distinct).of_map _

theorem Sound.put (sound : Sound points) (entry : Entry) :
    Sound (put (pointId entry.text) entry points) where
  ids p member := by
    obtain rfl | old | ⟨_, _, _, rfl⟩ := mem_put member
    · rfl
    · exact sound.ids p old
    · rfl
  distinct := nodup_map_key_put (fun _ _ => rfl) sound.distinct

theorem Sound.putAll (sound : Sound points) (entries : List Entry) :
    Sound (putAll entries points) :=
  List.foldlRecOn entries _ sound fun _ sound entry _ => sound.put entry

theorem sound_nil : Sound [] := ⟨List.forall_mem_nil _, List.nodup_nil⟩

theorem search_eq_of_decided
    (decided : Decided (fun p => Embedding.cosine vector p.2.vector) limits points)
    (same : points.Perm others) : search others vector limits = search points vector limits := by
  obtain ⟨chosen, found, first⟩ := search_ranks points vector limits
  obtain ⟨picked, found', second⟩ := search_ranks others vector limits
  rw [found, found', first.eq_of_decided decided (second.perm same.symm)]

theorem decided_of_search_eq (distinct : (points.map (·.2.text)).Nodup)
    (same : ∀ others, points.Perm others → search others vector limits = search points vector limits) :
    Decided (fun p => Embedding.cosine vector p.2.vector) limits points := by
  classical
  intro p member q member' different reached reached' place
  by_contra few
  rw [not_le] at few
  have hitsDiffer : hit vector p.1 p.2 ≠ hit vector q.1 q.2 := fun equal =>
    different (List.inj_on_of_nodup_map distinct member member' (congrArg Hit.text equal))
  have perm : points.Perm (p :: q :: (points.erase p).erase q) :=
    (List.perm_cons_erase member).trans
      ((List.perm_cons_erase ((List.mem_erase_of_ne different.symm).mpr member')).cons p)
  -- The points of the tie are listed first, in one order and in the other.
  have swapped := (same _ perm).trans (same _ (perm.trans (.swap _ _ _))).symm
  refine Hit.rank_swap_ne hitsDiffer reached reached' place ?_ swapped
  rw [length_better_of_tied perm place] at few
  exact (length_better_map Hit.score limits (fun p : Uuid × Entry => hit vector p.1 p.2) _ p).trans_lt
    few

theorem run_mapM_search (vectors : List Embedding) (limits : Limits) (points : Points) :
    (vectors.mapM (store.search · limits)).run points =
      (.ok (vectors.map (search points · limits)), points) := by
  induction vectors with
  | nil => rfl
  | cons vector vectors ih =>
    rw [List.mapM_cons, Action.run_bind, run_search]
    simp only [Action.run_bind, ih]
    rfl

end Memory

end Knowledge

namespace Embedder

def ofFunction {σ : Type} (dimension : Nat) (vectors : List String → Except Error (List Embedding)) :
    Embedder σ where
  dimension
  embed texts := liftExcept (vectors texts)

end Embedder

namespace Retriever

open Knowledge

variable {points others : Memory.Points} {limits : Limits}
  {vectors : List String → Except Error (List Embedding)}

theorem run_evidence (dimension : Nat) (userQuery : String) (claims : List Claim)
    (points : Memory.Points) :
    ((⟨.ofFunction dimension vectors, Memory.store, limits⟩ : Retriever Memory.Points).evidence
      userQuery claims).run points =
      (if (queries userQuery claims).isEmpty then .ok []
        else (vectors (queries userQuery claims)).map fun vectors => Evidence.unique
          ((vectors.map (Memory.search points · limits)).flatten.map (·.text)), points) := by
  simp only [evidence, gather, Embedder.ofFunction]
  split
  · rfl
  · rw [Action.run_bind, Action.run_liftExcept]
    cases vectors (queries userQuery claims) with
    | error error => rfl
    | ok vectors =>
      simp only [Action.run_bind, Memory.run_mapM_search]
      rfl

theorem evidence_eq_of_decided (dimension : Nat) (userQuery : String) (claims : List Claim)
    (decided : ∀ found, vectors (queries userQuery claims) = .ok found → ∀ vector ∈ found,
      Decided (fun p => Embedding.cosine vector p.2.vector) limits points)
    (same : points.Perm others) :
    let r : Retriever Memory.Points := ⟨.ofFunction dimension vectors, Memory.store, limits⟩
    ((r.evidence userQuery claims).run others).1 = ((r.evidence userQuery claims).run points).1 := by
  intro r
  rw [run_evidence, run_evidence]
  dsimp only
  cases embedded : vectors (queries userQuery claims) with
  | error error => rfl
  | ok found =>
    have alike : found.map (Memory.search others · limits) = found.map (Memory.search points · limits) :=
      List.map_congr_left fun vector member =>
        Memory.search_eq_of_decided (decided found embedded vector member) same
    simp only [Except.map, alike]

end Retriever

namespace Knowledge

theorem Hit.rank_pair {limits : Limits} {a b : Hit} (reached : a.admitted limits.threshold = true)
    (same : b.score = a.score) : rank limits [a, b] = [a, b].take limits.topK := by
  have reached' : b.admitted limits.threshold = true := by rwa [admitted, same]
  have sorted : [a, b].Pairwise fun a b => a.before b :=
    List.pairwise_pair.mpr (by simp [before, same])
  rw [rank, List.filter_eq_self.mpr (by simp [reached, reached']),
    List.mergeSort_of_pairwise sorted]

namespace Memory

theorem search_pair {vector : Embedding} {limits : Limits} {p q : Uuid × Entry}
    (reached : limits.threshold.atMost (Embedding.cosine vector p.2.vector) = true)
    (same : q.2.vector = p.2.vector) :
    search [p, q] vector limits = [hit vector p.1 p.2, hit vector q.1 q.2].take limits.topK :=
  Hit.rank_pair reached (congrArg (Embedding.cosine vector) same)

/-- Two points of one vector are found in the order in which they are listed, and a cut keeps the
one that is listed first. -/
theorem tied_hits_keep_listing_order :
    let vector : Embedding := [.ofFloat32 1.0, .ofFloat32 0.0]
    let a : Entry := ⟨"a", vector, []⟩
    let b : Entry := ⟨"b", vector, []⟩
    let points := putAll [a, b] []
    let others := putAll [b, a] []
    let r : Retriever Points :=
      ⟨.ofFunction 2 fun texts => .ok (texts.map fun _ => vector), store, {}⟩
    points.Perm others ∧
      (search points vector {}).map (·.text) = ["a", "b"] ∧
      (search others vector {}).map (·.text) = ["b", "a"] ∧
      (search points vector { topK := 1 }).map (·.text) = ["a"] ∧
      (search others vector { topK := 1 }).map (·.text) = ["b"] ∧
      ((r.evidence "Which letter?" []).run points).1 = .ok ["a", "b"] ∧
      ((r.evidence "Which letter?" []).run others).1 = .ok ["b", "a"] := by
  intro vector a b points others r
  have distinct : pointId "a" ≠ pointId "b" := by decide +kernel
  have listed : points = [(pointId "a", a), (pointId "b", b)] := by
    simp [points, putAll, put, Knowledge.put, a, b, distinct]
  have listed' : others = [(pointId "b", b), (pointId "a", a)] := by
    simp [others, putAll, put, Knowledge.put, a, b, distinct.symm]
  have reached : (({} : Limits).threshold).atMost (Embedding.cosine vector vector) = true := by
    decide +kernel
  have found (topK : Nat) : search points vector { topK } =
      [hit vector (pointId "a") a, hit vector (pointId "b") b].take topK := by
    rw [listed]
    exact search_pair reached rfl
  have found' (topK : Nat) : search others vector { topK } =
      [hit vector (pointId "b") b, hit vector (pointId "a") a].take topK := by
    rw [listed']
    exact search_pair reached rfl
  have asked : Retriever.queries "Which letter?" [] = ["Which letter?"] := by decide +kernel
  refine ⟨?_, ?_, ?_, ?_, ?_, ?_, ?_⟩
  · rw [listed, listed']
    exact .swap _ _ _
  · rw [found]
    rfl
  · rw [found']
    rfl
  · rw [found]
    rfl
  · rw [found']
    rfl
  · rw [Retriever.run_evidence, asked]
    show Except.ok (Evidence.unique (([search points vector {}].flatten).map _)) = _
    rw [found]
    decide
  · rw [Retriever.run_evidence, asked]
    show Except.ok (Evidence.unique (([search others vector {}].flatten).map _)) = _
    rw [found']
    decide

/-- Two searches of the same points agree in their scores, in what stands above each score, and in
all they return where that is less than was asked for. They return one list for all listings of
the points exactly when every tie lies behind the cut. Where this is so for each vector that is
searched for, all listings give one list of evidence. -/
theorem search_eq_iff_decided (points : Points) (sound : Sound points) (limits : Limits) :
    (∀ vector others, points.Perm others →
      Agree Hit.score limits (search points vector limits) (search others vector limits)) ∧
    (∀ vector, (∀ others, points.Perm others →
        search others vector limits = search points vector limits) ↔
      Decided (fun p => Embedding.cosine vector p.2.vector) limits points) ∧
    ∀ dimension vectors userQuery claims,
      (∀ found, vectors (Retriever.queries userQuery claims) = .ok found → ∀ vector ∈ found,
        Decided (fun p => Embedding.cosine vector p.2.vector) limits points) →
      ∀ others, points.Perm others →
        let r : Retriever Points := ⟨.ofFunction dimension vectors, store, limits⟩
        ((r.evidence userQuery claims).run others).1 =
          ((r.evidence userQuery claims).run points).1 := by
  refine ⟨fun vector others same => ?_, fun vector => ⟨decided_of_search_eq sound.texts, ?_⟩, ?_⟩
  · exact (Hit.ranking_rank limits _).agree
      ((Hit.ranking_rank limits _).perm (same.map _).symm)
  · exact fun decided others same => search_eq_of_decided decided same
  · intro dimension vectors userQuery claims decided others same
    exact Retriever.evidence_eq_of_decided dimension userQuery claims decided same

/-- The tie is between the second and the third point, and only one is asked for. -/
theorem search_eq_iff_decided_behind_cut :
    let vector : Embedding := [.ofFloat32 1.0, .ofFloat32 0.0]
    let aside : Embedding := [.ofFloat32 1.0, .ofFloat32 1.0]
    let a : Entry := ⟨"a", aside, []⟩
    let b : Entry := ⟨"b", vector, []⟩
    let c : Entry := ⟨"c", aside, []⟩
    let points := putAll [a, b, c] []
    Sound points ∧
      Decided (fun p => Embedding.cosine vector p.2.vector) { topK := 1 } points ∧
      ∀ others, points.Perm others →
        search others vector { topK := 1 } = search points vector { topK := 1 } := by
  intro vector aside a b c points
  have sound : Sound points := sound_nil.putAll _
  have listed : points = [(pointId "a", a), (pointId "b", b), (pointId "c", c)] := by
    have first : pointId "a" ≠ pointId "b" := by decide +kernel
    have second : pointId "a" ≠ pointId "c" := by decide +kernel
    have third : pointId "b" ≠ pointId "c" := by decide +kernel
    simp [points, putAll, put, Knowledge.put, a, b, c, first, second, third]
  have high : (Embedding.cosine vector aside).place < (Embedding.cosine vector vector).place := by
    decide +kernel
  have reached : (({} : Limits).threshold).atMost (Embedding.cosine vector vector) = true := by
    decide +kernel
  have best : (pointId "b", b) ∈ points := by simp [listed]
  have decided : Decided (fun p => Embedding.cosine vector p.2.vector) { topK := 1 } points := by
    intro p member q member' different _ _ place
    have below : (Embedding.cosine vector p.2.vector).place <
        (Embedding.cosine vector vector).place := by
      rw [listed] at member member'
      simp only [List.mem_cons, List.not_mem_nil, or_false] at member member'
      rcases member with rfl | rfl | rfl
      · exact high
      · rcases member' with rfl | rfl | rfl
        · exact absurd place high.ne'
        · exact absurd rfl different
        · exact absurd place high.ne'
      · exact high
    exact List.length_pos_of_mem (List.mem_filter.mpr ⟨best, by
      rw [Bool.and_eq_true]
      exact ⟨decide_eq_true below, reached⟩⟩)
  exact ⟨sound, decided, ((search_eq_iff_decided points sound _).2.1 vector).mpr decided⟩

end Memory

end Knowledge

end ClaimAudit
