import ClaimAudit.Proofs.FloatValue

/-! Products, quotients and conversions of floating-point numbers.

Each is the number nearest to the exact result, over the whole range: small results lose bits and
great ones are infinite. So none of them changes the order of two results.
-/

set_option autoImplicit false

namespace ClaimAudit.Number

open Float.Model (Format UnpackedFloat totalExponent)
open Float.Model.UnpackedFloat

theorem log_div_bounds {x y : ℚ} (hx : 0 < x) (hy : 0 < y) :
    Int.log 2 x - Int.log 2 y - 1 ≤ Int.log 2 (x / y) ∧
      Int.log 2 (x / y) ≤ Int.log 2 x - Int.log 2 y := by
  have lowerX : (2 : ℚ) ^ Int.log 2 x ≤ x := Int.zpow_log_le_self (by decide) hx
  have upperX : x < (2 : ℚ) ^ (Int.log 2 x + 1) := Int.lt_zpow_succ_log_self (by decide) x
  have lowerY : (2 : ℚ) ^ Int.log 2 y ≤ y := Int.zpow_log_le_self (by decide) hy
  have upperY : y < (2 : ℚ) ^ (Int.log 2 y + 1) := Int.lt_zpow_succ_log_self (by decide) y
  constructor
  · refine (Int.zpow_le_iff_le_log (by decide) (div_pos hx hy)).mp ?_
    rw [Nat.cast_ofNat, sub_sub, zpow_sub₀ two_ne_zero]
    exact div_le_div₀ hx.le lowerX hy upperY.le
  · refine Int.lt_add_one_iff.mp ((Int.lt_zpow_iff_log_lt (by decide) (div_pos hx hy)).mp ?_)
    rw [Nat.cast_ofNat, sub_add_eq_add_sub, zpow_sub₀ two_ne_zero]
    exact div_lt_div₀ upperX lowerY (two_zpow_pos _).le (two_zpow_pos _)

section Mantissas

variable {m n : ℕ} {e f : ℤ}

theorem log_mul_zpow (pos : 0 < m) : Int.log 2 ((m : ℚ) * 2 ^ e) = m.log2 + e := by
  have stands : Stands (.ofMantissaAndAccuracy m .exact) ((m : ℚ) * 2 ^ e / 2 ^ e) := by
    rw [mul_div_cancel_right₀ _ (two_zpow_pos e).ne']
    exact stands_exact m
  exact (log_of_stands pos stands).2

theorem Finite.rounded_eq {u : UnpackedFloat} {s : Sign} {x : ℚ} (finite : Finite u s x) :
    rounded x = x := by
  cases finite with
  | zero => exact rounded_zero
  | @nonzero s m e pos fits =>
    have last : place (m * 2 ^ e : ℚ) = e := by
      have few := fits.log2_le
      have least := fits.least
      rw [place, log_mul_zpow pos]
      rcases fits.full with full | last
      · have bits : 52 ≤ m.log2 := (Nat.le_log2 pos.ne').mpr full
        omega
      · omega
    refine ClaimAudit.Number.rounded_eq (n := m) ?_
    rw [last, mul_div_cancel_right₀ _ (two_zpow_pos e).ne']

theorem rounded_lt_limit {x : ℚ} (nonneg : 0 ≤ x)
    (most : x ≤ (2 ^ 53 - 1 : ℕ) * 2 ^ (971 : ℤ)) : rounded x < 2 ^ (1024 : ℤ) := by
  have fits : Fits (2 ^ 53 - 1) 971 := ⟨by decide, by decide, .inl (by decide)⟩
  have greatest := Finite.nonzero (s := .positive) (by decide) fits
  calc rounded x ≤ (2 ^ 53 - 1 : ℕ) * 2 ^ (971 : ℤ) := by
        rw [← greatest.rounded_eq]
        exact rounded_mono nonneg most
    _ < 2 ^ (1024 : ℤ) := fits.lt_limit_iff.mpr le_rfl

theorem finite_round_product (s : Sign) (pos : 0 < m) (pos' : 0 < n)
    (below : e + f ≤ place (m * 2 ^ e * (n * 2 ^ f))) :
    Finite (roundWithAccuracy .binary64 s (m * n) (e + f) .exact) s
      (rounded (m * 2 ^ e * (n * 2 ^ f))) := by
  have scaled : (m * 2 ^ e * (n * 2 ^ f) / 2 ^ (e + f) : ℚ) = (m * n : ℕ) := by
    rw [zpow_add₀ two_ne_zero]
    push_cast
    field_simp
  refine finite_roundWithAccuracy s (mul_pos (mul_zpow_pos pos _) (mul_zpow_pos pos' _)) below ?_
  rw [scaled]
  exact stands_exact _

theorem finite_round_quotient (s : Sign) (pos : 0 < m) (pos' : 0 < n) :
    Finite (roundWithAccuracy .binary64 s (divCore .binary64 m e n f).1
      (divCore .binary64 m e n f).2.1 (divCore .binary64 m e n f).2.2) s
      (rounded (m * 2 ^ e / (n * 2 ^ f))) := by
  have above := mul_zpow_pos pos e
  have under := mul_zpow_pos pos' f
  have log := (log_div_bounds above under).1
  rw [log_mul_zpow pos, log_mul_zpow pos'] at log
  -- The logarithm of a quotient may be one less than the difference of the logarithms. The exponent
  -- that is aimed at allows for that, so it is not above the last place.
  obtain ⟨target, low, last, core⟩ : ∃ target ≤ place (m * 2 ^ e / (n * 2 ^ f)),
      target ≤ e - f ∧ divCore .binary64 m e n f =
        (m * 2 ^ (e - f - target).toNat / n, target,
          accuracyOfFraction (m * 2 ^ (e - f - target).toNat % n) n) := by
    refine ⟨min (e - f) (Format.binary64.targetExponent (totalExponent m e - totalExponent n f)),
      ?_, min_le_left _ _, ?_⟩
    · simp only [Format.targetExponent, totalExponent, Format.mantissaBits, Format.minExponent,
        place]
      omega
    · simp only [divCore, Nat.shiftLeft_eq]
  have exponents : (2 : ℚ) ^ e = 2 ^ ((e - f - target).toNat : ℤ) * 2 ^ f * 2 ^ target := by
    rw [← zpow_add₀ two_ne_zero, ← zpow_add₀ two_ne_zero]
    congr 1
    omega
  have scaled : (m * 2 ^ e / (n * 2 ^ f) / 2 ^ target : ℚ) =
      ((m * 2 ^ (e - f - target).toNat : ℕ) : ℚ) / n := by
    have nonzero : (n : ℚ) ≠ 0 := by exact_mod_cast pos'.ne'
    rw [exponents, zpow_natCast]
    push_cast
    field_simp
  rw [core]
  refine finite_roundWithAccuracy s (div_pos above under) low ?_
  rw [scaled]
  exact stands_quotient _ pos'

theorem finite_round (s : Sign) (pos : 0 < m) :
    Finite (UnpackedFloat.round .binary64 s m 0) s (rounded m) := by
  have log : Int.log 2 (m : ℚ) = m.log2 := by
    rw [Int.log_natCast, Nat.log2_eq_log_two]
  obtain ⟨shift, low, decreased⟩ : ∃ shift : ℕ, -(shift : ℤ) ≤ place m ∧
      decreaseExponent m 0 (Format.binary64.targetExponent (totalExponent m 0)) =
        (m * 2 ^ shift, -(shift : ℤ)) := by
    refine ⟨(0 - Format.binary64.targetExponent (totalExponent m 0)).toNat, ?_, ?_⟩
    · rw [targetExponent_eq, place, log]
      omega
    · rw [decreaseExponent, Nat.shiftLeft_eq, zero_sub, zero_sub]
  have scaled : (m / 2 ^ (-(shift : ℤ)) : ℚ) = (m * 2 ^ shift : ℕ) := by
    rw [zpow_neg, zpow_natCast, div_inv_eq_mul]
    push_cast
    rfl
  simp only [UnpackedFloat.round, decreased]
  refine finite_roundWithAccuracy s (by exact_mod_cast pos) low ?_
  rw [scaled]
  exact stands_exact _

end Mantissas

section Operations

variable {f g : Float} {s t : Sign} {x y : ℚ}

/-- A product is the number nearest to the exact one. -/
theorem holds_mul (first : Finite f.toModel.unpack s x) (second : Finite g.toModel.unpack t y) :
    Holds (f * g) (s * t) (rounded (x * y)) := by
  have product : f * g = .ofModel (.pack
      (UnpackedFloat.mul .binary64 f.toModel.unpack g.toModel.unpack)) := rfl
  rw [product]
  refine holds_pack ?_
  generalize f.toModel.unpack = u at first
  generalize g.toModel.unpack = v at second
  cases first with
  | zero s =>
    rw [zero_mul, rounded_zero]
    cases second <;> exact .zero _
  | @nonzero s m e pos fits =>
    cases second with
    | zero t =>
      rw [mul_zero, rounded_zero]
      exact .zero _
    | @nonzero t n k pos' fits' =>
      refine finite_round_product _ pos pos' ?_
      -- Where both lack bits, their last places are the least.
      have exponents : (2 : ℚ) ^ e * 2 ^ k = 2 ^ (e + k) := (zpow_add₀ two_ne_zero _ _).symm
      have value : (m * 2 ^ e * (n * 2 ^ k) : ℚ) = (m * n : ℕ) * 2 ^ (e + k) := by
        rw [← exponents]
        push_cast
        ring
      rw [value, place, log_mul_zpow (Nat.mul_pos pos pos')]
      rcases fits.full with full | last
      · have bits : 52 ≤ (m * n).log2 := (Nat.le_log2 (Nat.mul_pos pos pos').ne').mpr
          (full.trans (Nat.le_mul_of_pos_right m pos'))
        omega
      · rcases fits'.full with full | last'
        · have bits : 52 ≤ (m * n).log2 := (Nat.le_log2 (Nat.mul_pos pos pos').ne').mpr
            (full.trans (Nat.le_mul_of_pos_left n pos))
          omega
        · omega

/-- A quotient is the number nearest to the exact one. -/
theorem holds_div (first : Finite f.toModel.unpack s x) (second : Finite g.toModel.unpack t y)
    (nonzero : y ≠ 0) : Holds (f / g) (s / t) (rounded (x / y)) := by
  have quotient : f / g = .ofModel (.pack
      (UnpackedFloat.div .binary64 f.toModel.unpack g.toModel.unpack)) := rfl
  rw [quotient]
  refine holds_pack ?_
  generalize f.toModel.unpack = u at first
  generalize g.toModel.unpack = v at second
  cases second with
  | zero t => exact absurd rfl nonzero
  | nonzero pos' =>
    cases first with
    | zero s =>
      rw [zero_div, rounded_zero]
      exact .zero _
    | nonzero pos => exact finite_round_quotient _ pos pos'

theorem Holds.neg (holds : Holds f s x) : Holds (-f) (-s) x := by
  have negated : -f = .ofModel (.pack f.toModel.unpack.neg) := rfl
  rcases holds with ⟨small, finite⟩ | ⟨great, infinite⟩
  · rw [negated]
    refine holds_pack ?_
    generalize f.toModel.unpack = u at finite
    cases finite with
    | zero => exact .zero _
    | nonzero pos fits => exact .nonzero pos fits
  · refine .inr ⟨great, ?_⟩
    rw [negated, infinite]
    exact unpack_pack_infinity _

end Operations

theorem Holds.finite {f : Float} {s : Sign} {x : ℚ} (holds : Holds f s x)
    (small : x < 2 ^ (1024 : ℤ)) : Finite f.toModel.unpack s x :=
  (holds.resolve_right fun great => great.1.not_gt small).2

theorem Holds.finite_of_not_isInf {f : Float} {s : Sign} {x : ℚ} (holds : Holds f s x)
    (bounded : f.isInf = false) : Finite f.toModel.unpack s x := by
  rcases holds with ⟨_, finite⟩ | ⟨_, infinite⟩
  · exact finite
  · have unbounded : f.isInf = f.toModel.unpack.isInf := rfl
    rw [unbounded, infinite] at bounded
    cases bounded

theorem Holds.le {f g : Float} {x y : ℚ} (first : Holds f .positive x)
    (second : Holds g .positive y) (most : x ≤ y) : f ≤ g := by
  rcases second with ⟨small, finite⟩ | ⟨great, infinite⟩
  · exact (le_iff_value (value?_of_finite (first.finite (most.trans_lt small)))
      (value?_of_finite finite)).mpr most
  · rcases first with ⟨small, finite⟩ | ⟨great', infinite'⟩
    · refine le_iff_rank.mpr ?_
      rw [infinite]
      generalize f.toModel.unpack = u at finite
      cases finite <;> exact ⟨_, _, rfl, rfl, by simp [Prod.Lex.toLex_le_toLex]⟩
    · refine le_iff_rank.mpr ?_
      rw [infinite, infinite']
      exact ⟨_, _, rfl, rfl, le_rfl⟩

section Scientific

theorem finite_toUInt64 {k : ℕ} (few : k < 2 ^ 53) :
    Finite k.toUInt64.toFloat.toModel.unpack .positive k := by
  have same : k.toUInt64.toNat = k := Nat.mod_eq_of_lt (few.trans (by decide))
  have converted : k.toUInt64.toFloat.toModel =
      .pack (UnpackedFloat.normalize .binary64 k 0 .positive) := by
    show Float.Model.pack (UnpackedFloat.ofUInt64 .binary64 k.toUInt64) = _
    rw [UnpackedFloat.ofUInt64, same]
    rfl
  rw [converted, UnpackedFloat.normalize]
  rcases Nat.eq_zero_or_pos k with rfl | pos
  · exact_mod_cast (unpack_pack_zero .positive) ▸ Finite.zero .positive
  · have above : compare (k : ℤ) 0 = .gt := Int.compare_eq_gt.mpr (by omega)
    have finite := finite_round .positive pos
    rw [rounded_natCast few] at finite
    have small : (k : ℚ) < 2 ^ (1024 : ℤ) := by
      calc (k : ℚ) < 2 ^ (53 : ℤ) := by exact_mod_cast few
        _ < 2 ^ (1024 : ℤ) := zpow_lt_zpow_right₀ one_lt_two (by decide)
    simp only [above, Int.toNat_natCast]
    rw [finite.unpack_pack small]
    exact finite

/-- Whether a number is a power of ten, by its bits. -/
def isPower (e : ℕ) : UnpackedFloat → Bool
  | .finite .positive m k _ =>
    2 ^ 52 ≤ m ∧ m < 2 ^ 53 ∧ -52 ≤ k ∧ m * 2 ^ (k + 52).toNat = 10 ^ e * 2 ^ 52
  | _ => false

theorem finite_of_isPower {e : ℕ} {u : UnpackedFloat} (power : isPower e u) :
    Finite u .positive (10 ^ e) := by
  unfold isPower at power
  split at power
  case h_1 m k pos =>
    obtain ⟨lower, upper, least, bits⟩ := of_decide_eq_true power
    have exponent : k = ((k + 52).toNat : ℤ) - (52 : ℕ) := by omega
    have value : (10 ^ e : ℚ) = m * 2 ^ k := by
      rw [exponent, zpow_sub₀ two_ne_zero, zpow_natCast, zpow_natCast, ← mul_div_assoc,
        eq_div_iff (by positivity)]
      exact_mod_cast bits.symm
    rw [value]
    exact .nonzero pos ⟨upper, by omega, .inl lower⟩
  case h_2 => cases power

theorem isPower_table : ∀ e : Fin Float.exactlyRepresentablePowersOfTen.size,
    isPower e Float.exactlyRepresentablePowersOfTen[e].toModel.unpack := by
  decide +kernel

theorem two_zpow_le_ten_pow {k : ℤ} {e : ℕ} (most : k ≤ e) : (2 : ℚ) ^ k ≤ 10 ^ e := by
  calc (2 : ℚ) ^ k ≤ 2 ^ (e : ℤ) := zpow_le_zpow_right₀ one_le_two most
    _ = 2 ^ e := zpow_natCast 2 e
    _ ≤ 10 ^ e := pow_le_pow_left₀ (by norm_num) (by norm_num) e

theorem limit_le_rounded {x : ℚ} (great : 2 ^ (1024 : ℤ) ≤ x) : 2 ^ (1024 : ℤ) ≤ rounded x := by
  have kept := rounded_two_zpow (k := 1024) (by decide)
  rw [← kept]
  exact rounded_mono (two_zpow_pos _).le great

section

variable {m : ℕ} (pos : 0 < m) (e : ℕ)
include pos

theorem holds_model_up :
    Holds (.ofModel (.ofScientific m e)) .positive (rounded (m * 10 ^ e)) := by
  have range : (2 : ℤ) ^ Format.binary64.exponentBits = 2048 := by decide
  have ten : 0 < 10 ^ e := Nat.pow_pos (by decide)
  have least : (1 : ℚ) ≤ m * 10 ^ e := by exact_mod_cast Nat.mul_pos pos ten
  show Holds (.ofModel (.pack (UnpackedFloat.ofScientific .binary64 m e))) _ _
  rw [UnpackedFloat.ofScientific, dif_neg pos.ne', range]
  by_cases great : (2048 : ℤ) < e
  · rw [if_pos great]
    refine .inr ⟨limit_le_rounded ?_, unpack_pack_infinity _⟩
    calc (2 : ℚ) ^ (1024 : ℤ) ≤ 10 ^ e := two_zpow_le_ten_pow (by omega)
      _ ≤ m * 10 ^ e := le_mul_of_one_le_left (by positivity) (by exact_mod_cast pos)
  · -- With 53 more bits the product has enough of them, whatever the mantissa.
    have shifted : 0 < m * 2 ^ 53 := Nat.mul_pos pos (by decide)
    have value : ((m * 2 ^ 53 : ℕ) * 2 ^ (-53 : ℤ) * ((10 ^ e : ℕ) * 2 ^ (0 : ℤ)) : ℚ) =
        m * 10 ^ e := by
      rw [zpow_zero, mul_one, zpow_neg]
      push_cast
      field_simp
    have below : -53 + 0 ≤ place (m * 10 ^ e : ℚ) := by
      have log : 0 ≤ Int.log 2 (m * 10 ^ e : ℚ) :=
        (Int.zpow_le_iff_le_log (by decide) (by positivity)).mp (by simpa using least)
      rw [place]
      omega
    have finite := finite_round_product (e := -53) (f := 0) .positive shifted ten
      (by rw [value]; exact below)
    rw [value] at finite
    rw [if_neg (by omega), if_neg (by omega), if_pos (by omega)]
    simp only [Nat.shiftLeft_eq]
    exact holds_pack finite

theorem holds_model_down (some : 0 < e) :
    Holds (.ofModel (.ofScientific m (-e : ℤ))) .positive (rounded (m / 10 ^ e)) := by
  have range : (2 : ℤ) ^ Format.binary64.exponentBits = 2048 := by decide
  have ten : 0 < 10 ^ e := Nat.pow_pos (by decide)
  have positive : (0 : ℚ) < m := by exact_mod_cast pos
  show Holds (.ofModel (.pack (UnpackedFloat.ofScientific .binary64 m (-e : ℤ)))) _ _
  rw [UnpackedFloat.ofScientific, dif_neg pos.ne', range, if_neg (by omega)]
  by_cases small : (2048 : ℤ) + m.log2 < e
  · -- The quotient lies below half of the least number.
    rw [if_pos (by omega)]
    have below : (m / 10 ^ e : ℚ) < 2 ^ (-1075 : ℤ) := by
      rw [div_lt_iff₀ (by positivity)]
      calc (m : ℚ) < 2 ^ ((m.log2 : ℤ) + 1) := by exact_mod_cast Nat.lt_log2_self
        _ ≤ 2 ^ (-1075 : ℤ) * 2 ^ (e : ℤ) := by
          rw [← zpow_add₀ two_ne_zero]
          exact zpow_le_zpow_right₀ one_le_two (by omega)
        _ ≤ 2 ^ (-1075 : ℤ) * 10 ^ e :=
          mul_le_mul_of_nonneg_left (two_zpow_le_ten_pow le_rfl) (two_zpow_pos _).le
    rw [rounded_eq_zero (by positivity) below]
    exact holds_pack (.zero _)
  · have value : (m * 2 ^ (0 : ℤ) / ((10 ^ e : ℕ) * 2 ^ (0 : ℤ)) : ℚ) = m / 10 ^ e := by
      rw [zpow_zero, mul_one, mul_one, Nat.cast_pow, Nat.cast_ofNat]
    have finite := finite_round_quotient (e := 0) (f := 0) .positive pos ten
    rw [value] at finite
    rw [if_neg (by omega), if_neg (by omega)]
    simp only [neg_neg, Int.toNat_natCast]
    exact holds_pack finite

end

def scientific (m : ℕ) (down : Bool) (e : ℕ) : ℚ := if down then m / 10 ^ e else m * 10 ^ e

/-- The number nearest to a decimal fraction, by one rounded operation on exact operands where
these are small, and by rounding the exact result elsewhere. -/
theorem holds_ofScientific {m : ℕ} (pos : 0 < m) (down : Bool) (e : ℕ) :
    Holds (Float.ofScientific m down e) .positive (rounded (scientific m down e)) := by
  rw [Float.ofScientific]
  split
  case isTrue small =>
    have table : e < Float.exactlyRepresentablePowersOfTen.size := by
      show e < 23
      omega
    have whole := finite_toUInt64 small.1
    have power := finite_of_isPower (isPower_table ⟨e, table⟩)
    cases down with
    | false => exact holds_mul whole power
    | true => exact holds_div whole power (by positivity)
  case isFalse =>
    cases down with
    | false => exact holds_model_up pos e
    | true =>
      rcases Nat.eq_zero_or_pos e with rfl | some
      · have up := holds_model_up pos 0
        rw [pow_zero, mul_one, ← div_one (m : ℚ), ← pow_zero (10 : ℚ)] at up
        exact up
      · have down := holds_model_down pos e some
        have negated : Int.negOfNat e = -(e : ℤ) := Int.negOfNat_eq
        rw [← negated] at down
        exact down

theorem holds_ofNat (k : ℕ) : Holds (Float.ofNat k) .positive (rounded k) := by
  rcases Nat.eq_zero_or_pos k with rfl | pos
  · rw [Nat.cast_zero, rounded_zero]
    exact .inl ⟨two_zpow_pos _, .zero _⟩
  · have holds := holds_ofScientific pos false 0
    rw [scientific, if_neg Bool.false_ne_true, pow_zero, mul_one] at holds
    exact holds

theorem holds_ofInt (k : ℤ) :
    Holds (Float.ofInt k) (if k < 0 then .negative else .positive) (rounded k.natAbs) := by
  cases k with
  | ofNat n =>
    have nonneg : ¬ Int.ofNat n < 0 := not_lt.mpr (Int.natCast_nonneg n)
    rw [if_neg nonneg]
    exact holds_ofNat n
  | negSucc n =>
    rw [if_pos (Int.negSucc_lt_zero n)]
    exact (holds_ofNat (n + 1)).neg

theorem finite_ofNat {k : ℕ} (fits : k < 2 ^ 64) :
    Finite (Float.ofNat k).toModel.unpack .positive (rounded k) := by
  refine (holds_ofNat k).finite ?_
  have most : (k : ℚ) ≤ 2 ^ (64 : ℤ) := by exact_mod_cast fits.le
  calc rounded k ≤ rounded (2 ^ (64 : ℤ)) := rounded_mono (Nat.cast_nonneg k) most
    _ = 2 ^ (64 : ℤ) := rounded_two_zpow (by decide)
    _ < 2 ^ (1024 : ℤ) := zpow_lt_zpow_right₀ one_lt_two (by decide)

theorem value?_ofNat {k : ℕ} (few : k < 2 ^ 53) : value? (Float.ofNat k) = some k := by
  have finite := finite_ofNat (few.trans (by decide))
  rw [rounded_natCast few] at finite
  exact value?_of_finite finite

/-- Of two quotients by one count, the greater count gives no smaller number. -/
theorem quotient_mono {p q n : ℕ} (most : p ≤ q) (fits : q < 2 ^ 64) (pos : 0 < n)
    (fits' : n < 2 ^ 64) : Float.ofNat p / Float.ofNat n ≤ Float.ofNat q / Float.ofNat n := by
  have under : 0 < rounded n := by
    have one : rounded (1 : ℕ) = (1 : ℕ) := rounded_natCast (by decide)
    have least : rounded (1 : ℕ) ≤ rounded n := rounded_mono zero_le_one (by exact_mod_cast pos)
    rw [one] at least
    exact zero_lt_one.trans_le (by exact_mod_cast least)
  have divisor := finite_ofNat fits'
  have first := holds_div (finite_ofNat (by omega : p < 2 ^ 64)) divisor under.ne'
  have second := holds_div (finite_ofNat fits) divisor under.ne'
  have counts : rounded p ≤ rounded q := rounded_mono (Nat.cast_nonneg p) (by exact_mod_cast most)
  refine first.le second (rounded_mono (div_nonneg (rounded_nonneg _) under.le) ?_)
  exact (div_le_div_iff_of_pos_right under).mpr counts

end Scientific

end ClaimAudit.Number
