/-! Cutting a list into batches of bounded size. -/

set_option autoImplicit false

namespace ClaimAudit

variable {α : Type}

/-- Consecutive batches of `size` elements; the last one may be shorter. -/
def batches (size : Nat) (items : List α) : List (List α) :=
  if items = [] ∨ size = 0 then []
  else items.take size :: batches size (items.drop size)
termination_by items.length
decreasing_by
  rename_i proper
  have ⟨inhabited, positive⟩ := not_or.mp proper
  have := List.length_pos_iff.mpr inhabited
  simp only [List.length_drop]
  omega

@[simp] theorem flatten_batches {size : Nat} (positive : 0 < size) (items : List α) :
    (batches size items).flatten = items := by
  fun_induction batches size items with
  | case1 items stopped =>
    rcases stopped with empty | zero
    · simp [empty]
    · omega
  | case2 items proper ih => simp [ih]

theorem length_le_of_mem_batches {size : Nat} {items batch : List α}
    (member : batch ∈ batches size items) : batch.length ≤ size := by
  fun_induction batches size items with
  | case1 => simp at member
  | case2 items proper ih =>
    rcases List.mem_cons.mp member with rfl | later
    · simp only [List.length_take]; omega
    · exact ih later

theorem ne_nil_of_mem_batches {size : Nat} {items batch : List α}
    (member : batch ∈ batches size items) : batch ≠ [] := by
  fun_induction batches size items with
  | case1 => simp at member
  | case2 items proper ih =>
    rcases List.mem_cons.mp member with rfl | later
    · rw [ne_eq, List.take_eq_nil_iff, or_comm]
      exact proper
    · exact ih later

theorem pairwise_batches (size : Nat) (items : List α) :
    (batches size items).Pairwise fun batch _ => batch.length = size := by
  fun_induction batches size items with
  | case1 => exact .nil
  | case2 items proper ih =>
    refine List.pairwise_cons.mpr ⟨fun later member => ?_, ih⟩
    have more : items.drop size ≠ [] := by
      intro none
      rw [none, batches, if_pos (.inl rfl)] at member
      cases member
    rw [ne_eq, List.drop_eq_nil_iff, Nat.not_le] at more
    exact List.length_take_of_le (Nat.le_of_lt more)

theorem length_batches {size : Nat} (positive : 0 < size) (items : List α) :
    (batches size items).length = (items.length + size - 1) / size := by
  fun_induction batches size items with
  | case1 items stopped =>
    obtain rfl := stopped.resolve_right (Nat.ne_of_gt positive)
    exact (Nat.div_eq_of_lt (by simp only [List.length_nil]; omega)).symm
  | case2 items proper ih =>
    have filled : 0 < items.length := List.length_pos_iff.mpr (not_or.mp proper).1
    rw [List.length_cons, ih, List.length_drop, ← Nat.add_div_right _ positive]
    by_cases many : size ≤ items.length
    · congr 1
      omega
    · have once : (items.length - size + size - 1 + size) / size = 1 :=
        Nat.div_eq_of_lt_le (by omega) (by omega)
      rw [once]
      exact (Nat.div_eq_of_lt_le (by omega) (by omega)).symm

end ClaimAudit
