import ClaimAudit.Proofs.WeightedMean
import Mathlib.Data.List.Forall2
import Mathlib.Tactic.Ring

/-! How the score moves when judgments change, in exact fractions.

To compare the mean with a bound is to compare the weighted worth with that many times the total
weight. A lower worth leaves the weights as they are. A higher confidence moves both sums, the one
by the worth of the judgment for every unit that the other moves, so the mean moves towards that
worth.
-/

set_option autoImplicit false

namespace ClaimAudit

namespace Scoring

/-- The judgment of a status that is worth no more, with the same confidence. -/
structure Lowers (scoring : Scoring ℚ) (before after : Judgment ℚ) : Prop where
  confidence : after.confidence = before.confidence
  worth : scoring.worth after.status ≤ scoring.worth before.status

variable {scoring : Scoring ℚ} {judgments : List (Judgment ℚ)} {x : ℚ}

theorem le_faithfulness_iff (floor : 0 < scoring.minWeight)
    (graded : ∀ s, 0 ≤ scoring.worth s ∧ scoring.worth s ≤ 1) (inhabited : judgments ≠ []) :
    x ≤ scoring.faithfulness judgments ↔
      x * scoring.totalWeight judgments ≤ scoring.weightedWorth judgments := by
  rw [faithfulness_eq floor graded inhabited, le_div_iff₀ (totalWeight_pos floor inhabited)]

theorem faithfulness_le_iff (floor : 0 < scoring.minWeight)
    (graded : ∀ s, 0 ≤ scoring.worth s ∧ scoring.worth s ≤ 1) (inhabited : judgments ≠ []) :
    scoring.faithfulness judgments ≤ x ↔
      scoring.weightedWorth judgments ≤ x * scoring.totalWeight judgments := by
  rw [faithfulness_eq floor graded inhabited, div_le_iff₀ (totalWeight_pos floor inhabited)]

/-- At the score itself the two sums balance. -/
theorem faithfulness_mul_totalWeight (floor : 0 < scoring.minWeight)
    (graded : ∀ s, 0 ≤ scoring.worth s ∧ scoring.worth s ≤ 1) (inhabited : judgments ≠ []) :
    scoring.faithfulness judgments * scoring.totalWeight judgments =
      scoring.weightedWorth judgments :=
  le_antisymm ((le_faithfulness_iff floor graded inhabited).mp le_rfl)
    ((faithfulness_le_iff floor graded inhabited).mp le_rfl)

section Lowered

variable {first second : List (Judgment ℚ)}

theorem weight_of_lowers {j k : Judgment ℚ} (lower : scoring.Lowers j k) :
    scoring.weight k = scoring.weight j := by
  simp only [weight_eq, lower.confidence]

theorem totalWeight_of_lowers (lower : List.Forall₂ scoring.Lowers first second) :
    scoring.totalWeight second = scoring.totalWeight first := by
  rw [totalWeight_eq, totalWeight_eq]
  induction lower with
  | nil => rfl
  | cons head _ ih => rw [List.map_cons, List.map_cons, List.sum_cons, List.sum_cons,
      weight_of_lowers head, ih]

theorem weightedWorth_of_lowers (floor : 0 < scoring.minWeight)
    (lower : List.Forall₂ scoring.Lowers first second) :
    scoring.weightedWorth second ≤ scoring.weightedWorth first := by
  rw [weightedWorth_eq, weightedWorth_eq]
  induction lower with
  | nil => exact le_rfl
  | cons head _ ih =>
    rw [List.map_cons, List.map_cons, List.sum_cons, List.sum_cons, weight_of_lowers head]
    exact add_le_add (mul_le_mul_of_nonneg_right head.worth (weight_pos floor _).le) ih

end Lowered

section Raised

variable (scoring) (before after : List (Judgment ℚ)) (j : Judgment ℚ) (confidence : ℚ)

-- What one judgment adds to either sum stands by itself, so only this part of a sum moves when
-- its confidence does.
theorem totalWeight_withConfidence :
    scoring.totalWeight (before ++ { j with confidence } :: after) =
      scoring.totalWeight (before ++ j :: after) +
        (scoring.weight { j with confidence } - scoring.weight j) := by
  simp only [totalWeight_eq, List.map_append, List.map_cons, List.sum_append, List.sum_cons]
  ring

theorem weightedWorth_withConfidence :
    scoring.weightedWorth (before ++ { j with confidence } :: after) =
      scoring.weightedWorth (before ++ j :: after) +
        scoring.worth j.status * (scoring.weight { j with confidence } - scoring.weight j) := by
  simp only [weightedWorth_eq, List.map_append, List.map_cons, List.sum_append, List.sum_cons]
  ring

variable {j confidence}

theorem weight_le_withConfidence (more : j.confidence ≤ confidence) :
    scoring.weight j ≤ scoring.weight { j with confidence } := by
  simp only [weight_eq]
  exact max_le_max more le_rfl

end Raised

/-- Statuses that are worth no more never raise the score. More confidence in one judgment moves
the score towards what this judgment is worth, if at all. Confidences may be any fractions, those
of the unit interval among them, on either side of the least weight. -/
theorem faithfulness_follows_judgments (scoring : Scoring ℚ) (floor : 0 < scoring.minWeight)
    (graded : ∀ s, 0 ≤ scoring.worth s ∧ scoring.worth s ≤ 1) :
    (∀ first second, List.Forall₂ scoring.Lowers first second →
      scoring.faithfulness second ≤ scoring.faithfulness first) ∧
    ∀ before j after confidence, j.confidence ≤ confidence →
      let judgments := before ++ j :: after
      let raised := before ++ { j with confidence } :: after
      (scoring.faithfulness judgments ≤ scoring.worth j.status →
        scoring.faithfulness judgments ≤ scoring.faithfulness raised) ∧
      (scoring.worth j.status ≤ scoring.faithfulness judgments →
        scoring.faithfulness raised ≤ scoring.faithfulness judgments) := by
  refine ⟨fun first second lower => ?_, fun before j after confidence more => ?_⟩
  · cases lower with
    | nil => exact le_rfl
    | cons head tail =>
      have lowered := List.Forall₂.cons head tail
      rw [faithfulness_le_iff floor graded (List.cons_ne_nil _ _), totalWeight_of_lowers lowered,
        faithfulness_mul_totalWeight floor graded (List.cons_ne_nil _ _)]
      exact weightedWorth_of_lowers floor lowered
  · intro judgments raised
    have inhabited : judgments ≠ [] := List.append_ne_nil_of_right_ne_nil _ (List.cons_ne_nil _ _)
    have stays : raised ≠ [] := List.append_ne_nil_of_right_ne_nil _ (List.cons_ne_nil _ _)
    have gain : 0 ≤ scoring.weight { j with confidence } - scoring.weight j :=
      sub_nonneg.mpr (scoring.weight_le_withConfidence more)
    rw [le_faithfulness_iff floor graded stays, faithfulness_le_iff floor graded stays,
      totalWeight_withConfidence, weightedWorth_withConfidence, mul_add,
      faithfulness_mul_totalWeight floor graded inhabited]
    exact ⟨fun below => add_le_add le_rfl (mul_le_mul_of_nonneg_right below gain),
      fun above => add_le_add le_rfl (mul_le_mul_of_nonneg_right above gain)⟩

/-- A confidence raised from below the least weight, for a claim worth more than the score and for
one worth less, and a status replaced by a lower one. -/
theorem faithfulness_follows_judgments_across_floor :
    let scoring : Scoring ℚ := ⟨1, 1 / 2, 0, 3 / 10, 1 / 10, 7 / 10, 3 / 10, 5, 100⟩
    let wet (confidence : ℚ) : Judgment ℚ := ⟨⟨"Water is wet"⟩, .supported, confidence, []⟩
    let hot (confidence : ℚ) : Judgment ℚ := ⟨⟨"Ice is hot"⟩, .unsupported, confidence, []⟩
    0 < scoring.minWeight ∧ (∀ s, 0 ≤ scoring.worth s ∧ scoring.worth s ≤ 1) ∧
      scoring.faithfulness [wet 0, hot (3 / 10)] = 1 / 4 ∧
      scoring.faithfulness [wet 0, hot (3 / 10)] ≤
        scoring.faithfulness [wet (9 / 10), hot (3 / 10)] ∧
      scoring.faithfulness [wet 0, hot 1] ≤ scoring.faithfulness [wet 0, hot (3 / 10)] ∧
      scoring.faithfulness [{ wet 0 with status := .unknown }, hot (3 / 10)] ≤
        scoring.faithfulness [wet 0, hot (3 / 10)] := by
  intro scoring wet hot
  have floor : 0 < scoring.minWeight := by decide +kernel
  have graded : ∀ s, 0 ≤ scoring.worth s ∧ scoring.worth s ≤ 1 := by
    intro s
    cases s <;> decide +kernel
  obtain ⟨lowered, raised⟩ := faithfulness_follows_judgments scoring floor graded
  have value : scoring.faithfulness [wet 0, hot (3 / 10)] = 1 / 4 := by decide +kernel
  refine ⟨floor, graded, value, ?_, ?_, ?_⟩
  · exact (raised [] (wet 0) [hot (3 / 10)] (9 / 10) (by decide +kernel)).1 (by decide +kernel)
  · exact (raised [wet 0] (hot (3 / 10)) [] 1 (by decide +kernel)).2 (by decide +kernel)
  · exact lowered _ _ (.cons ⟨rfl, by decide +kernel⟩ (.cons ⟨rfl, le_rfl⟩ .nil))

end Scoring

end ClaimAudit
