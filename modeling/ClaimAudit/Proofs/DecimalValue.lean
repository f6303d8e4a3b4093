import ClaimAudit.Number.Decimal
import ClaimAudit.Proofs.FloatArithmetic

/-! What a decimal numeral is worth as a floating-point number.

It is the number nearest to the exact value, whatever the length of the numeral, and infinite where
that is out of range. The two shortcuts for very great and very small numerals agree with rounding.
-/

set_option autoImplicit false

namespace ClaimAudit.Number

def Decimal.magnitude (d : Decimal) : ℚ := d.coefficient * 10 ^ d.exponent

def Decimal.sign (d : Decimal) : Float.Model.UnpackedFloat.Sign :=
  if d.negative then .negative else .positive

def Decimal.value (d : Decimal) : ℚ := signed d.sign d.magnitude

theorem ten_zpow_pos (k : ℤ) : (0 : ℚ) < 10 ^ k := zpow_pos (by norm_num) k

theorem ten_pow_le_of_toDigits {n : ℕ} (pos : 0 < n) :
    10 ^ ((Nat.toDigits 10 n).length - 1) ≤ n := by
  rcases Nat.eq_zero_or_pos ((Nat.toDigits 10 n).length - 1) with one | more
  · rw [one, pow_zero]
    exact pos
  · refine not_lt.mp fun less => ?_
    have few := (Nat.length_toDigits_le_iff (by decide) more).mpr less
    omega

theorem lt_ten_pow_toDigits (n : ℕ) : n < 10 ^ (Nat.toDigits 10 n).length :=
  (Nat.length_toDigits_le_iff (by decide) Nat.length_toDigits_pos).mp le_rfl

theorem magnitude_bounds {n : ℕ} (pos : 0 < n) (e : ℤ) :
    (10 : ℚ) ^ ((Nat.toDigits 10 n).length + e - 1) ≤ n * 10 ^ e ∧
      (n * 10 ^ e : ℚ) < 10 ^ ((Nat.toDigits 10 n).length + e) := by
  have digits : 0 < (Nat.toDigits 10 n).length := Nat.length_toDigits_pos
  have split : ((Nat.toDigits 10 n).length + e - 1 : ℤ) =
      ((Nat.toDigits 10 n).length - 1 : ℕ) + e := by omega
  rw [split, zpow_add₀ (by norm_num), zpow_add₀ (by norm_num), zpow_natCast, zpow_natCast]
  exact ⟨mul_le_mul_of_nonneg_right (by exact_mod_cast ten_pow_le_of_toDigits pos)
      (ten_zpow_pos e).le,
    mul_lt_mul_of_pos_right (by exact_mod_cast lt_ten_pow_toDigits n) (ten_zpow_pos e)⟩

theorem limit_le_ten_zpow : (2 : ℚ) ^ (1024 : ℤ) ≤ 10 ^ (310 : ℤ) := by
  have powers : 2 ^ 1024 ≤ 10 ^ 310 := by decide +kernel
  exact_mod_cast powers

theorem ten_zpow_le_least : (10 : ℚ) ^ (-330 : ℤ) ≤ 2 ^ (-1075 : ℤ) := by
  have powers : 2 ^ 1075 ≤ 10 ^ 330 := by decide +kernel
  rw [zpow_neg, zpow_neg, inv_le_inv₀ (ten_zpow_pos _) (two_zpow_pos _)]
  exact_mod_cast powers

theorem scientific_up (m : ℕ) {e : ℤ} (nonneg : 0 ≤ e) :
    scientific m false e.toNat = m * 10 ^ e := by
  obtain ⟨n, rfl⟩ := Int.eq_ofNat_of_zero_le nonneg
  rw [scientific, if_neg Bool.false_ne_true, Int.toNat_natCast, zpow_natCast]

theorem scientific_down (m : ℕ) {e : ℤ} (neg : e < 0) :
    scientific m true (-e).toNat = m * 10 ^ e := by
  obtain ⟨n, negated⟩ := Int.eq_ofNat_of_zero_le (neg_nonneg.mpr neg.le)
  rw [scientific, if_pos rfl, negated, Int.toNat_natCast, ← zpow_natCast, ← negated, zpow_neg,
    div_inv_eq_mul]

/-- A numeral is read as the number nearest to its exact value. -/
theorem Decimal.holds_toFloat (d : Decimal) : Holds d.toFloat d.sign (rounded d.magnitude) := by
  have bounds (some : d.coefficient ≠ 0) := magnitude_bounds (Nat.pos_of_ne_zero some) d.exponent
  -- The sign is put in front of what the digits come to.
  have magnitude : Holds (if d.coefficient = 0 then 0
      else if 310 < ((Nat.toDigits 10 d.coefficient).length : ℤ) + d.exponent then 1 / 0
      else if ((Nat.toDigits 10 d.coefficient).length : ℤ) + d.exponent < -330 then 0
      else if 0 ≤ d.exponent then Float.ofScientific d.coefficient false d.exponent.toNat
      else Float.ofScientific d.coefficient true (-d.exponent).toNat) .positive
      (rounded d.magnitude) := by
    split_ifs with none great small up
    · rw [Decimal.magnitude, none, Nat.cast_zero, zero_mul, rounded_zero]
      exact .inl ⟨two_zpow_pos _, .zero _⟩
    · refine .inr ⟨limit_le_rounded (limit_le_ten_zpow.trans ?_), rfl⟩
      exact (zpow_le_zpow_right₀ (by norm_num) (by omega)).trans (bounds none).1
    · have below : d.magnitude < 2 ^ (-1075 : ℤ) :=
        (bounds none).2.trans_le
          ((zpow_le_zpow_right₀ (by norm_num) small.le).trans ten_zpow_le_least)
      have positive : 0 < d.magnitude :=
        mul_pos (by exact_mod_cast Nat.pos_of_ne_zero none) (ten_zpow_pos _)
      rw [rounded_eq_zero positive below]
      exact .inl ⟨two_zpow_pos _, .zero _⟩
    · rw [Decimal.magnitude, ← scientific_up _ up]
      exact holds_ofScientific (Nat.pos_of_ne_zero none) _ _
    · rw [Decimal.magnitude, ← scientific_down _ (not_le.mp up)]
      exact holds_ofScientific (Nat.pos_of_ne_zero none) _ _
  cases sign : d.negative with
  | false =>
    rw [Decimal.toFloat, Decimal.sign, sign]
    exact magnitude
  | true =>
    rw [Decimal.toFloat, Decimal.sign, sign]
    exact magnitude.neg

end ClaimAudit.Number
