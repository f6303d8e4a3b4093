import Mathlib.Data.Prod.Lex
import Mathlib.Order.Compare

/-! How floating-point numbers compare.

Unpacked numbers are compared by sign, then exponent, then mantissa. That is the order of a linear
order in which every number has its place, and what is no number has none.
-/

set_option autoImplicit false

namespace ClaimAudit.Number

open Float.Model (UnpackedFloat)

/-- The place of a number in the order: its class, its exponent and its mantissa. -/
def rank? : UnpackedFloat → Option (ℤ ×ₗ ℤ ×ₗ ℤ)
  | .notANumber => none
  | .infinity .negative => some (toLex (-2, toLex (0, 0)))
  | .finite .negative m e _ => some (toLex (-1, toLex (-e, -m)))
  | .zero _ => some (toLex (0, toLex (0, 0)))
  | .finite .positive m e _ => some (toLex (1, toLex (e, m)))
  | .infinity .positive => some (toLex (2, toLex (0, 0)))

theorem compare_natCast (m n : ℕ) : compare (m : ℤ) n = compare m n := by
  simp only [Int.compare_eq_ite_le, Nat.compare_eq_ite_le, Int.ofNat_le]

theorem compare_neg (a b : ℤ) : compare (-a) (-b) = (compare a b).swap := by
  rw [Int.compare_swap]
  simp only [Int.compare_eq_ite_le, Int.neg_le_neg_iff]

theorem compare_eq_rank (u v : UnpackedFloat) :
    u.compare v = (rank? u).bind fun a => (rank? v).map (compare a) := by
  rcases u with s | _ | s | ⟨s, m, e, _⟩ <;> rcases v with t | _ | t | ⟨t, n, f, _⟩ <;>
    (try cases s) <;> (try cases t) <;> try rfl
  -- Two finite numbers of one sign remain.
  · show some ((compare e f).then (compare m n)).swap =
      some ((compare (-e) (-f)).then (compare (-(m : ℤ)) (-n)))
    rw [Ordering.swap_then, compare_neg, compare_neg, compare_natCast]
  · show some ((compare e f).then (compare m n)) = some ((compare e f).then (compare (m : ℤ) n))
    rw [compare_natCast]

theorem lt_iff_rank {x y : Float} : x < y ↔
    ∃ a b, rank? x.toModel.unpack = some a ∧ rank? y.toModel.unpack = some b ∧ a < b := by
  show decide ((x.toModel.unpack.compare y.toModel.unpack == some .lt) = true) = true ↔ _
  rw [compare_eq_rank]
  cases rank? x.toModel.unpack <;> cases rank? y.toModel.unpack <;> simp [compare_lt_iff_lt]

theorem le_iff_rank {x y : Float} : x ≤ y ↔
    ∃ a b, rank? x.toModel.unpack = some a ∧ rank? y.toModel.unpack = some b ∧ a ≤ b := by
  show decide (((x.toModel.unpack.compare y.toModel.unpack).any (·.isLE)) = true) = true ↔ _
  rw [compare_eq_rank]
  cases rank? x.toModel.unpack <;> cases rank? y.toModel.unpack <;>
    simp [← Ordering.ne_gt_iff_isLE, compare_gt_iff_gt]

theorem float_lt_of_lt_of_le {x y z : Float} (below : x < y) (most : y ≤ z) : x < z := by
  obtain ⟨a, b, hx, hy, ab⟩ := lt_iff_rank.mp below
  obtain ⟨b', c, hy', hz, bc⟩ := le_iff_rank.mp most
  rw [hy, Option.some.injEq] at hy'
  subst hy'
  exact lt_iff_rank.mpr ⟨a, c, hx, hz, ab.trans_le bc⟩

end ClaimAudit.Number
