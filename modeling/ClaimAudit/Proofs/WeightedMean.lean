import ClaimAudit.Score
import Mathlib.Algebra.BigOperators.Ring.List
import Mathlib.Algebra.Order.BigOperators.Group.List
import Mathlib.Algebra.Order.Field.Rat
import Mathlib.Data.Set.Finite.Lemmas
import Mathlib.Tactic.NormNum

/-! The score as a weighted mean, in exact fractions.

A floor under the weights keeps their sum above zero, so the mean exists. It lies between the least
and the greatest worth of the judgments: where these are in the unit interval nothing is left to
move there.
-/

set_option autoImplicit false

namespace ClaimAudit

theorem unitInterval_of_mem {x : ℚ} (least : 0 ≤ x) (most : x ≤ 1) : unitInterval x = x := by
  simp only [unitInterval, not_lt.mpr least, not_lt.mpr most, if_false]

namespace Scoring

theorem sum_eq (terms : List ℚ) : sum terms = terms.sum :=
  List.sum_eq_foldl.symm

theorem larger_eq (a b : ℚ) : larger a b = max a b := by
  rw [larger, if_pos (le_refl a), max_def]

variable (scoring : Scoring ℚ) {judgments : List (Judgment ℚ)}

theorem weight_eq : scoring.weight = fun j => max j.confidence scoring.minWeight :=
  funext fun _ => larger_eq _ _

theorem totalWeight_eq (judgments : List (Judgment ℚ)) :
    scoring.totalWeight judgments = (judgments.map scoring.weight).sum :=
  sum_eq _

theorem weightedWorth_eq (judgments : List (Judgment ℚ)) :
    scoring.weightedWorth judgments =
      (judgments.map fun j => scoring.worth j.status * scoring.weight j).sum :=
  sum_eq _

theorem length_mul_le_totalWeight (judgments : List (Judgment ℚ)) :
    judgments.length * scoring.minWeight ≤ scoring.totalWeight judgments := by
  have floor : ∀ x ∈ judgments.map scoring.weight, scoring.minWeight ≤ x := by
    intro x member
    obtain ⟨j, _, rfl⟩ := List.mem_map.mp member
    rw [weight_eq]
    exact le_max_right _ _
  have least := List.card_nsmul_le_sum _ _ floor
  rwa [List.length_map, nsmul_eq_mul, ← totalWeight_eq] at least

variable {scoring}

theorem weight_pos (floor : 0 < scoring.minWeight) (j : Judgment ℚ) : 0 < scoring.weight j := by
  rw [weight_eq]
  exact floor.trans_le (le_max_right _ _)

theorem totalWeight_pos (floor : 0 < scoring.minWeight) (inhabited : judgments ≠ []) :
    0 < scoring.totalWeight judgments := by
  have count : (0 : ℚ) < judgments.length := by
    exact_mod_cast List.length_pos_iff.mpr inhabited
  exact (mul_pos count floor).trans_le (scoring.length_mul_le_totalWeight judgments)

theorem mean_between {low high : ℚ} (floor : 0 < scoring.minWeight) (inhabited : judgments ≠ [])
    (bounded : ∀ j ∈ judgments, low ≤ scoring.worth j.status ∧ scoring.worth j.status ≤ high) :
    low ≤ scoring.weightedWorth judgments / scoring.totalWeight judgments ∧
      scoring.weightedWorth judgments / scoring.totalWeight judgments ≤ high := by
  have positive := totalWeight_pos floor inhabited
  rw [le_div_iff₀ positive, div_le_iff₀ positive, weightedWorth_eq, totalWeight_eq,
    ← List.sum_map_mul_left, ← List.sum_map_mul_left]
  exact ⟨List.sum_le_sum fun j member =>
      mul_le_mul_of_nonneg_right (bounded j member).1 (weight_pos floor j).le,
    List.sum_le_sum fun j member =>
      mul_le_mul_of_nonneg_right (bounded j member).2 (weight_pos floor j).le⟩

theorem faithfulness_eq (floor : 0 < scoring.minWeight)
    (graded : ∀ s, 0 ≤ scoring.worth s ∧ scoring.worth s ≤ 1) (inhabited : judgments ≠ []) :
    scoring.faithfulness judgments =
      scoring.weightedWorth judgments / scoring.totalWeight judgments := by
  have mean := mean_between floor inhabited fun j _ => graded j.status
  rw [faithfulness, if_neg (not_le.mpr (totalWeight_pos floor inhabited)),
    unitInterval_of_mem mean.1 mean.2]

theorem faithfulness_perm (scoring : Scoring ℚ) {first second : List (Judgment ℚ)}
    (reordered : first.Perm second) :
    scoring.faithfulness first = scoring.faithfulness second := by
  have weights : scoring.totalWeight first = scoring.totalWeight second := by
    rw [totalWeight_eq, totalWeight_eq, (reordered.map _).sum_eq]
  have worths : scoring.weightedWorth first = scoring.weightedWorth second := by
    rw [weightedWorth_eq, weightedWorth_eq, (reordered.map _).sum_eq]
  rw [faithfulness, faithfulness, weights, worths]

theorem faithfulness_nil {R : Type} [OfNat R 0] [OfNat R 1] [Add R] [Mul R] [Div R] [LE R]
    [DecidableLE R] [LT R] [DecidableLT R] (none : (0 : R) ≤ 0) (scoring : Scoring R) :
    scoring.faithfulness [] = 0 :=
  if_pos none

/-- Some judgment has the least worth and some the greatest. -/
theorem exists_extremes (scoring : Scoring ℚ) (inhabited : judgments ≠ []) :
    ∃ worst ∈ judgments, ∃ best ∈ judgments, ∀ j ∈ judgments,
      scoring.worth worst.status ≤ scoring.worth j.status ∧
        scoring.worth j.status ≤ scoring.worth best.status := by
  have finite := judgments.finite_toSet
  have nonempty : {j | j ∈ judgments}.Nonempty := List.exists_mem_of_ne_nil _ inhabited
  obtain ⟨worst, low, least⟩ := Set.exists_min_image _ (scoring.worth ·.status) finite nonempty
  obtain ⟨best, high, most⟩ := Set.exists_max_image _ (scoring.worth ·.status) finite nonempty
  exact ⟨worst, low, best, high, fun j member => ⟨least j member, most j member⟩⟩

/-- The score of some judgments is the mean of what they are worth, weighted by their confidence
or the floor under it. The weights never sum to zero, and the mean is in the unit interval without
being moved there. No judgments at all score zero, whatever the scoring. -/
theorem faithfulness_is_weighted_mean (scoring : Scoring ℚ) (judgments : List (Judgment ℚ))
    (inhabited : judgments ≠ []) (floor : 0 < scoring.minWeight)
    (graded : ∀ s, 0 ≤ scoring.worth s ∧ scoring.worth s ≤ 1) :
    judgments.length * scoring.minWeight ≤ scoring.totalWeight judgments ∧
    ¬ scoring.totalWeight judgments ≤ 0 ∧
    scoring.faithfulness judgments =
      (judgments.map fun j =>
        scoring.worth j.status * max j.confidence scoring.minWeight).sum /
      (judgments.map fun j => max j.confidence scoring.minWeight).sum ∧
    (∃ worst ∈ judgments, ∃ best ∈ judgments,
      (∀ j ∈ judgments, scoring.worth worst.status ≤ scoring.worth j.status ∧
        scoring.worth j.status ≤ scoring.worth best.status) ∧
      scoring.worth worst.status ≤ scoring.faithfulness judgments ∧
      scoring.faithfulness judgments ≤ scoring.worth best.status) ∧
    unitInterval (scoring.weightedWorth judgments / scoring.totalWeight judgments) =
      scoring.weightedWorth judgments / scoring.totalWeight judgments ∧
    (∀ s, (∀ j ∈ judgments, j.status = s) → scoring.faithfulness judgments = scoring.worth s) ∧
    (∀ reordered, judgments.Perm reordered →
      scoring.faithfulness reordered = scoring.faithfulness judgments) ∧
    (∀ any : Scoring ℚ, any.faithfulness [] = 0) ∧
    (∀ any : Scoring Float, any.faithfulness [] = 0) := by
  have mean := faithfulness_eq floor graded inhabited
  have unit := mean_between floor inhabited fun j _ => graded j.status
  refine ⟨scoring.length_mul_le_totalWeight judgments, not_le.mpr (totalWeight_pos floor inhabited),
    ?_, ?_, unitInterval_of_mem unit.1 unit.2, fun s same => ?_,
    fun reordered perm => (scoring.faithfulness_perm perm).symm, faithfulness_nil le_rfl,
    faithfulness_nil (by decide)⟩
  · rw [mean, weightedWorth_eq, totalWeight_eq, weight_eq]
  · obtain ⟨worst, low, best, high, extreme⟩ := scoring.exists_extremes inhabited
    have between := mean_between floor inhabited extreme
    rw [← mean] at between
    exact ⟨worst, low, best, high, extreme, between⟩
  · have common : ∀ j ∈ judgments,
        scoring.worth s ≤ scoring.worth j.status ∧ scoring.worth j.status ≤ scoring.worth s := by
      intro j member
      rw [same j member]
      exact ⟨le_rfl, le_rfl⟩
    have between := mean_between floor inhabited common
    rw [mean]
    exact le_antisymm between.2 between.1

/-- Two weights, one of them the floor. -/
theorem faithfulness_is_weighted_mean_two_judgments :
    let scoring : Scoring ℚ := ⟨1, 1 / 2, 0, 3 / 10, 1 / 10, 7 / 10, 3 / 10, 5, 100⟩
    let judgments : List (Judgment ℚ) :=
      [⟨⟨"Water is wet"⟩, .supported, 9 / 10, []⟩, ⟨⟨"Ice is hot"⟩, .unsupported, 0, []⟩]
    0 < scoring.minWeight ∧ (∀ s, 0 ≤ scoring.worth s ∧ scoring.worth s ≤ 1) ∧
      scoring.faithfulness judgments = 9 / 10 ∧
      scoring.faithfulness judgments.reverse = 9 / 10 := by
  intro scoring judgments
  have floor : 0 < scoring.minWeight := by decide +kernel
  have graded : ∀ s, 0 ≤ scoring.worth s ∧ scoring.worth s ≤ 1 := by
    intro s
    cases s <;> decide +kernel
  obtain ⟨_, _, mean, _, _, _, reordered, _⟩ :=
    faithfulness_is_weighted_mean scoring judgments (List.cons_ne_nil _ _) floor graded
  have value : scoring.faithfulness judgments = 9 / 10 := by
    rw [mean]
    decide +kernel
  exact ⟨floor, graded, value, (reordered _ judgments.reverse_perm.symm).trans value⟩

end Scoring

end ClaimAudit
