import ClaimAudit.Proofs.FloatOrder
import Mathlib

/-! Rounding to floating-point numbers.

A result is computed as a mantissa with two bits, which say how far the exact result lies above it.
What matters of both is the exact result they stand for: rounding finds the number nearest to it,
and so keeps the order of the results. A number has 53 bits, and no bit below the least place. Its
exponent has no upper limit here; what is too great is made infinite when it is packed.
-/

set_option autoImplicit false

namespace ClaimAudit.Number

open Float.Model (Format UnpackedFloat totalExponent)
open Float.Model.UnpackedFloat

/-- The whole number nearest to a positive one; a tie goes to the even neighbour. -/
def halfEven (x : ℚ) : ℕ :=
  if x < ⌊x⌋₊ + 1 / 2 then ⌊x⌋₊
  else if ⌊x⌋₊ + 1 / 2 < x then ⌊x⌋₊ + 1
  else ⌊x⌋₊ + ⌊x⌋₊ % 2

theorem floor_le_halfEven (x : ℚ) : ⌊x⌋₊ ≤ halfEven x := by
  unfold halfEven
  split
  · exact le_rfl
  · split <;> omega

theorem halfEven_le (x : ℚ) : halfEven x ≤ ⌊x⌋₊ + 1 := by
  unfold halfEven
  split
  · omega
  · split <;> omega

theorem halfEven_natCast (n : ℕ) : halfEven n = n := by
  rw [halfEven, Nat.floor_natCast, if_pos (by linarith)]

theorem halfEven_mono {x y : ℚ} (most : x ≤ y) : halfEven x ≤ halfEven y := by
  rcases (Nat.floor_mono most).lt_or_eq with less | same
  · calc halfEven x ≤ ⌊x⌋₊ + 1 := halfEven_le x
      _ ≤ ⌊y⌋₊ := less
      _ ≤ halfEven y := floor_le_halfEven y
  · unfold halfEven
    rw [same]
    split_ifs <;> first | omega | (exfalso; linarith)

/-- A mantissa with its two bits stands for a number. The bits say where it lies between the
mantissa and the next one: there, below the middle, in the middle or above. -/
def Stands (em : ExtendedMantissa) (x : ℚ) : Prop :=
  match em.roundBit, em.stickyBit with
  | false, false => x = em.mantissa
  | false, true => em.mantissa < x ∧ x < em.mantissa + 1 / 2
  | true, false => x = em.mantissa + 1 / 2
  | true, true => em.mantissa + 1 / 2 < x ∧ x < em.mantissa + 1

theorem Stands.bounds {em : ExtendedMantissa} {x : ℚ} (stands : Stands em x) :
    (em.mantissa : ℚ) ≤ x ∧ x < em.mantissa + 1 := by
  obtain ⟨m, r, s⟩ := em
  cases r <;> cases s <;> simp only [Stands] at stands <;> constructor <;> linarith

theorem Stands.floor {em : ExtendedMantissa} {x : ℚ} (stands : Stands em x) :
    ⌊x⌋₊ = em.mantissa :=
  (Nat.floor_eq_iff ((Nat.cast_nonneg _).trans stands.bounds.1)).mpr stands.bounds

theorem Stands.roundedMantissa {em : ExtendedMantissa} {x : ℚ} (stands : Stands em x) :
    em.roundedMantissa = halfEven x := by
  rw [halfEven, stands.floor]
  obtain ⟨m, r, s⟩ := em
  cases r <;> cases s <;> simp only [Stands] at stands
  · rw [if_pos (by linarith)]
    rfl
  · rw [if_pos stands.2]
    rfl
  · rw [if_neg (by linarith), if_neg (by linarith)]
    rfl
  · rw [if_neg (by linarith), if_pos stands.1]
    rfl

theorem Stands.halve {em : ExtendedMantissa} {x : ℚ} (stands : Stands em x) :
    Stands em.shiftRightOne (x / 2) := by
  obtain ⟨m, r, s⟩ := em
  have split : (m : ℚ) = 2 * (m / 2 : ℕ) + (m % 2 : ℕ) := by
    exact_mod_cast (Nat.div_add_mod m 2).symm
  rcases Nat.mod_two_eq_zero_or_one m with even | odd
  · rw [even] at split
    cases r <;> cases s <;> simp [Stands, ExtendedMantissa.shiftRightOne, even] at stands ⊢ <;>
      first | linarith | (constructor <;> linarith)
  · rw [odd] at split
    cases r <;> cases s <;> simp [Stands, ExtendedMantissa.shiftRightOne, odd] at stands ⊢ <;>
      first | linarith | (constructor <;> linarith)

theorem Stands.shift {em : ExtendedMantissa} {x : ℚ} (stands : Stands em x) (n : ℕ) :
    Stands (em >>> n) (x / 2 ^ n) := by
  show Stands (n.repeat ExtendedMantissa.shiftRightOne em) _
  induction n with
  | zero => simpa [Nat.repeat] using stands
  | succ n ih =>
    rw [pow_succ, ← div_div]
    exact ih.halve

theorem stands_exact (m : ℕ) : Stands (.ofMantissaAndAccuracy m .exact) m := rfl

theorem stands_quotient (n : ℕ) {d : ℕ} (pos : 0 < d) :
    Stands (.ofMantissaAndAccuracy (n / d) (accuracyOfFraction (n % d) d)) (n / d : ℚ) := by
  have positive : (0 : ℚ) < d := by exact_mod_cast pos
  have division : (n : ℚ) = d * (n / d : ℕ) + (n % d : ℕ) := by
    exact_mod_cast (Nat.div_add_mod n d).symm
  have value : (n / d : ℚ) = (n / d : ℕ) + ((n % d : ℕ) : ℚ) / d := by
    rw [division, add_div, mul_div_cancel_left₀ _ positive.ne']
  have below : ((n % d : ℕ) : ℚ) / d < 1 := by
    rw [div_lt_one positive]
    exact_mod_cast Nat.mod_lt n pos
  rw [value, accuracyOfFraction]
  split
  case isTrue none =>
    rw [none, Nat.cast_zero, zero_div, add_zero]
    exact stands_exact _
  case isFalse some =>
    have above : 0 < ((n % d : ℕ) : ℚ) / d := by positivity
    -- Twice the remainder against the divisor: the fraction against the middle.
    cases order : compare (2 * (n % d)) d with
    | lt =>
      have less : ((n % d : ℕ) : ℚ) / d < 1 / 2 := by
        rw [div_lt_div_iff₀ positive two_pos]
        exact_mod_cast (by have := Nat.compare_eq_lt.mp order; omega : n % d * 2 < 1 * d)
      exact ⟨lt_add_of_pos_right _ above, (add_lt_add_iff_left _).mpr less⟩
    | eq =>
      have middle : ((n % d : ℕ) : ℚ) / d = 1 / 2 := by
        rw [div_eq_div_iff positive.ne' two_ne_zero]
        exact_mod_cast (by have := Nat.compare_eq_eq.mp order; omega : n % d * 2 = 1 * d)
      show _ = _
      rw [middle]
      rfl
    | gt =>
      have more : 1 / 2 < ((n % d : ℕ) : ℚ) / d := by
        rw [div_lt_div_iff₀ two_pos positive]
        exact_mod_cast (by have := Nat.compare_eq_gt.mp order; omega : 1 * d < n % d * 2)
      exact ⟨(add_lt_add_iff_left _).mpr more, (add_lt_add_iff_left _).mpr below⟩

theorem two_zpow_pos (k : ℤ) : (0 : ℚ) < 2 ^ k := zpow_pos two_pos k

theorem log_eq {x : ℚ} {k : ℤ} (positive : 0 < x) (lower : (2 : ℚ) ^ k ≤ x)
    (upper : x < (2 : ℚ) ^ (k + 1)) : Int.log 2 x = k := by
  have most := (Int.lt_zpow_iff_log_lt (b := 2) (by decide) positive).mp upper
  have least := (Int.zpow_le_iff_le_log (b := 2) (by decide) positive).mp lower
  omega

def place (x : ℚ) : ℤ := max (Int.log 2 x - 52) (-1074)

/-- The nearest number with 53 bits, of which none stands below the least place. -/
def rounded (x : ℚ) : ℚ := halfEven (x / 2 ^ place x) * 2 ^ place x

theorem scaled_lt (x : ℚ) : x / 2 ^ place x < (2 : ℚ) ^ 53 := by
  have unit := two_zpow_pos (place x)
  rw [div_lt_iff₀ unit, ← zpow_natCast, ← zpow_add₀ two_ne_zero]
  calc x < (2 : ℚ) ^ (Int.log 2 x + 1) := Int.lt_zpow_succ_log_self (by decide) x
    _ ≤ 2 ^ (((53 : ℕ) : ℤ) + place x) := zpow_le_zpow_right₀ one_le_two (by rw [place]; omega)

theorem le_scaled {x : ℚ} (positive : 0 < x) (full : -1074 < place x) :
    (2 : ℚ) ^ 52 ≤ x / 2 ^ place x := by
  have unit := two_zpow_pos (place x)
  rw [le_div_iff₀ unit, ← zpow_natCast, ← zpow_add₀ two_ne_zero]
  calc (2 : ℚ) ^ (((52 : ℕ) : ℤ) + place x) ≤ 2 ^ Int.log 2 x :=
        zpow_le_zpow_right₀ one_le_two (by rw [place] at full ⊢; omega)
    _ ≤ x := Int.zpow_log_le_self (by decide) positive

theorem halfEven_scaled_le (x : ℚ) : halfEven (x / 2 ^ place x) ≤ 2 ^ 53 := by
  have mono := halfEven_mono (y := ((2 ^ 53 : ℕ) : ℚ)) (by exact_mod_cast (scaled_lt x).le)
  rwa [halfEven_natCast] at mono

theorem le_halfEven_scaled {x : ℚ} (positive : 0 < x) (full : -1074 < place x) :
    2 ^ 52 ≤ halfEven (x / 2 ^ place x) := by
  have mono := halfEven_mono (x := ((2 ^ 52 : ℕ) : ℚ)) (by exact_mod_cast le_scaled positive full)
  rwa [halfEven_natCast] at mono

theorem rounded_nonneg (x : ℚ) : 0 ≤ rounded x :=
  mul_nonneg (Nat.cast_nonneg _) (two_zpow_pos _).le

theorem rounded_eq {x : ℚ} {n : ℕ} (whole : x / 2 ^ place x = n) : rounded x = x := by
  rw [rounded, whole, halfEven_natCast, ← whole]
  exact div_mul_cancel₀ x (two_zpow_pos _).ne'

theorem rounded_zero : rounded 0 = 0 := rounded_eq (n := 0) (by rw [zero_div, Nat.cast_zero])

theorem rounded_mono {x y : ℚ} (nonneg : 0 ≤ x) (most : x ≤ y) : rounded x ≤ rounded y := by
  rcases nonneg.eq_or_lt with rfl | positive
  · rw [rounded_zero]
    exact rounded_nonneg y
  have unit := two_zpow_pos (place x)
  have places : place x ≤ place y :=
    max_le_max (Int.sub_le_sub_right (Int.log_mono_right positive most) 52) le_rfl
  rcases places.lt_or_eq with less | same
  · -- A power of two lies between the numbers, and rounding passes none.
    have full : -1074 < place y := (le_max_right _ _).trans_lt less
    have upper : (halfEven (x / 2 ^ place x) : ℚ) ≤ 2 ^ (53 : ℤ) := by
      exact_mod_cast halfEven_scaled_le x
    have lower : (2 : ℚ) ^ (52 : ℤ) ≤ halfEven (y / 2 ^ place y) := by
      exact_mod_cast le_halfEven_scaled (positive.trans_le most) full
    calc rounded x ≤ 2 ^ (53 : ℤ) * 2 ^ place x := mul_le_mul_of_nonneg_right upper unit.le
      _ = 2 ^ (53 + place x) := (zpow_add₀ two_ne_zero _ _).symm
      _ ≤ 2 ^ (52 + place y) := zpow_le_zpow_right₀ one_le_two (by omega)
      _ = 2 ^ (52 : ℤ) * 2 ^ place y := zpow_add₀ two_ne_zero _ _
      _ ≤ rounded y := mul_le_mul_of_nonneg_right lower (two_zpow_pos _).le
  · rw [rounded, rounded, ← same]
    have quotients : x / 2 ^ place x ≤ y / 2 ^ place x :=
      (div_le_div_iff_of_pos_right unit).mpr most
    exact mul_le_mul_of_nonneg_right (by exact_mod_cast halfEven_mono quotients) unit.le

theorem rounded_natCast {k : ℕ} (few : k < 2 ^ 53) : rounded k = k := by
  rcases Nat.eq_zero_or_pos k with rfl | pos
  · exact_mod_cast rounded_zero
  have log : Int.log 2 (k : ℚ) = k.log2 := by
    rw [Int.log_natCast, Nat.log2_eq_log_two]
  have bits : k.log2 < 53 := (Nat.log2_lt pos.ne').mpr few
  -- All its bits stand above the last of the 53 places.
  refine rounded_eq (n := k * 2 ^ (52 - k.log2)) ?_
  have last : place (k : ℚ) = -((52 - k.log2 : ℕ) : ℤ) := by
    rw [place, log]
    omega
  rw [last, zpow_neg, zpow_natCast, div_inv_eq_mul]
  push_cast
  rfl

theorem rounded_two_zpow {k : ℤ} (least : -1074 ≤ k) : rounded (2 ^ k) = 2 ^ k := by
  have log : Int.log 2 ((2 : ℚ) ^ k) = k := log_eq (two_zpow_pos k) le_rfl
    (zpow_lt_zpow_right₀ one_lt_two (by omega))
  refine rounded_eq (n := 2 ^ (k - place (2 ^ k)).toNat) ?_
  have above : ((k - place ((2 : ℚ) ^ k)).toNat : ℤ) = k - place (2 ^ k) := by
    rw [place, log]
    omega
  rw [← zpow_sub₀ two_ne_zero, Nat.cast_pow, Nat.cast_ofNat, ← zpow_natCast, above]

theorem rounded_eq_zero {x : ℚ} (positive : 0 < x) (small : x < 2 ^ (-1075 : ℤ)) :
    rounded x = 0 := by
  have log : Int.log 2 x < -1075 := (Int.lt_zpow_iff_log_lt (by decide) positive).mp small
  have last : place x = -1074 := by
    rw [place]
    omega
  have half : x / 2 ^ place x < 1 / 2 := by
    rw [last, div_lt_iff₀ (two_zpow_pos _), one_div, ← zpow_neg_one, ← zpow_add₀ two_ne_zero]
    exact small
  have none : ⌊x / 2 ^ place x⌋₊ = 0 := Nat.floor_eq_zero.mpr (half.trans one_half_lt_one)
  rw [rounded, halfEven, none, if_pos (by rw [Nat.cast_zero, zero_add]; exact half),
    Nat.cast_zero, zero_mul]

/-- A mantissa and an exponent in their proper form: at most 53 bits, and fewer only if the last
of them has the least place. -/
structure Fits (m : ℕ) (e : ℤ) : Prop where
  upper : m < 2 ^ 53
  least : -1074 ≤ e
  full : 2 ^ 52 ≤ m ∨ e = -1074

theorem Fits.log2_le {m : ℕ} {e : ℤ} (fits : Fits m e) : m.log2 ≤ 52 := by
  rcases Nat.eq_zero_or_pos m with rfl | pos
  · decide
  · exact Nat.lt_succ_iff.mp ((Nat.log2_lt pos.ne').mpr fits.upper)

/-- The greater of two numbers has the greater exponent, or the greater mantissa beside the same
exponent. -/
theorem Fits.lt_iff {m n : ℕ} {e f : ℤ} (first : Fits m e) (second : Fits n f) :
    (m * 2 ^ e : ℚ) < n * 2 ^ f ↔ e < f ∨ e = f ∧ m < n := by
  -- The one with the greater exponent has all its bits, so no mantissa makes up for the exponent.
  have below {m n : ℕ} {e f : ℤ} (first : Fits m e) (second : Fits n f) (less : e < f) :
      (m * 2 ^ e : ℚ) < n * 2 ^ f := by
    have upper : (m : ℚ) < 2 ^ (53 : ℤ) := by exact_mod_cast first.upper
    have lower : (2 : ℚ) ^ (52 : ℤ) ≤ n := by
      have full := second.full.resolve_right (by have := first.least; omega)
      exact_mod_cast full
    calc (m * 2 ^ e : ℚ) < 2 ^ (53 : ℤ) * 2 ^ e := mul_lt_mul_of_pos_right upper (two_zpow_pos e)
      _ = 2 ^ (53 + e) := (zpow_add₀ two_ne_zero _ _).symm
      _ ≤ 2 ^ (52 + f) := zpow_le_zpow_right₀ one_le_two (by omega)
      _ = 2 ^ (52 : ℤ) * 2 ^ f := zpow_add₀ two_ne_zero _ _
      _ ≤ n * 2 ^ f := mul_le_mul_of_nonneg_right lower (two_zpow_pos f).le
  rcases lt_trichotomy e f with less | rfl | more
  · exact ⟨fun _ => .inl less, fun _ => below first second less⟩
  · rw [mul_lt_mul_iff_left₀ (two_zpow_pos e), Nat.cast_lt]
    exact ⟨fun less => .inr ⟨rfl, less⟩, fun either => (either.resolve_left (lt_irrefl e)).2⟩
  · refine ⟨fun less => absurd (below second first more) less.le.not_gt, fun either => ?_⟩
    omega

theorem Fits.lt_limit_iff {m : ℕ} {e : ℤ} (fits : Fits m e) :
    (m * 2 ^ e : ℚ) < 2 ^ (1024 : ℤ) ↔ e ≤ 971 := by
  have limit : Fits (2 ^ 52) 972 := ⟨by decide, by decide, .inl le_rfl⟩
  have value : ((2 ^ 52 : ℕ) * 2 ^ (972 : ℤ) : ℚ) = 2 ^ (1024 : ℤ) := by
    rw [Nat.cast_pow, Nat.cast_ofNat, ← zpow_natCast, ← zpow_add₀ two_ne_zero]
    rfl
  rw [← value, fits.lt_iff limit]
  constructor
  · rintro (less | ⟨rfl, fewer⟩)
    · omega
    · have := fits.full.resolve_right (by decide)
      omega
  · intro most
    exact .inl (by omega)

/-- A finite number, with its sign and its magnitude. Exponents have no upper limit yet. -/
inductive Finite : UnpackedFloat → Sign → ℚ → Prop where
  | zero (s : Sign) : Finite (.zero s) s 0
  | nonzero {s : Sign} {m : ℕ} {e : ℤ} (pos : 0 < m) (fits : Fits m e) :
    Finite (.finite s m e pos) s (m * 2 ^ e)

theorem mantissa_ofMantissaAndAccuracy (m : ℕ) (accuracy : Accuracy) :
    (ExtendedMantissa.ofMantissaAndAccuracy m accuracy).mantissa = m := by
  cases accuracy with
  | exact => rfl
  | inexact order => cases order <;> rfl

section Round

variable {m : ℕ} {e : ℤ} {accuracy : Accuracy} {x : ℚ}

theorem log_of_stands (pos : 0 < m)
    (stands : Stands (.ofMantissaAndAccuracy m accuracy) (x / 2 ^ e)) :
    0 < x ∧ Int.log 2 x = m.log2 + e := by
  have unit := two_zpow_pos e
  obtain ⟨lower, upper⟩ := stands.bounds
  rw [mantissa_ofMantissaAndAccuracy] at lower upper
  rw [le_div_iff₀ unit] at lower
  rw [div_lt_iff₀ unit] at upper
  have least : ((2 ^ m.log2 : ℕ) : ℚ) ≤ m := by exact_mod_cast Nat.log2_self_le pos.ne'
  have most : ((m : ℚ) + 1) ≤ (2 ^ (m.log2 + 1) : ℕ) := by exact_mod_cast Nat.lt_log2_self
  have positive : 0 < x := (mul_pos (by exact_mod_cast pos) unit).trans_le lower
  refine ⟨positive, log_eq positive ?_ ?_⟩
  · rw [zpow_add₀ two_ne_zero, zpow_natCast]
    push_cast at least
    exact (mul_le_mul_of_nonneg_right least unit.le).trans lower
  · rw [add_right_comm, zpow_add₀ two_ne_zero]
    push_cast at most
    exact_mod_cast upper.trans_le (mul_le_mul_of_nonneg_right most unit.le)

theorem targetExponent_eq (m : ℕ) (e : ℤ) :
    Format.binary64.targetExponent (totalExponent m e) = max (m.log2 + e - 52) (-1074) := by
  simp only [Format.targetExponent, totalExponent, Format.mantissaBits, Format.minExponent]
  omega

/-- Where the mantissa has bits enough, the exact result alone decides the last place. -/
theorem targetExponent_of_stands (positive : 0 < x) (below : e ≤ place x)
    (stands : Stands (.ofMantissaAndAccuracy m accuracy) (x / 2 ^ e)) :
    Format.binary64.targetExponent (totalExponent m e) = place x := by
  rw [targetExponent_eq]
  rcases Nat.eq_zero_or_pos m with rfl | pos
  · -- All bits of the result lie beyond the least place.
    have upper := stands.bounds.2
    rw [mantissa_ofMantissaAndAccuracy, Nat.cast_zero, zero_add, div_lt_one (two_zpow_pos e)]
      at upper
    have log : Int.log 2 x < e := (Int.lt_zpow_iff_log_lt (by decide) positive).mp upper
    have none : Nat.log2 0 = 0 := rfl
    rw [place] at below ⊢
    omega
  · rw [place, (log_of_stands pos stands).2]

theorem shiftToTargetExponent_of_stands (positive : 0 < x) (below : e ≤ place x)
    (stands : Stands (.ofMantissaAndAccuracy m accuracy) (x / 2 ^ e)) :
    ∃ em, shiftToTargetExponent .binary64 m e accuracy = (em, place x) ∧
      Stands em (x / 2 ^ place x) := by
  have target := targetExponent_of_stands positive below stands
  have last : e + ((place x - e).toNat : ℤ) = place x := by omega
  refine ⟨ExtendedMantissa.ofMantissaAndAccuracy m accuracy >>> (place x - e).toNat, ?_, ?_⟩
  · rw [shiftToTargetExponent, target, shiftToExponent, last]
  · have shifted := stands.shift (place x - e).toNat
    rwa [div_div, ← zpow_natCast, ← zpow_add₀ two_ne_zero, last] at shifted

/-- A mantissa in its proper form needs no shift. -/
theorem shiftToTargetExponent_of_fits (fits : Fits m e) :
    shiftToTargetExponent .binary64 m e .exact = (⟨m, false, false⟩, e) := by
  have target : Format.binary64.targetExponent (totalExponent m e) = e := by
    have few := fits.log2_le
    have least := fits.least
    rw [targetExponent_eq]
    rcases fits.full with full | last
    · have bits : m.log2 = 52 := (Nat.log2_eq_iff (by omega)).mpr ⟨full, fits.upper⟩
      omega
    · omega
  rw [shiftToTargetExponent, target, shiftToExponent, Int.sub_self, Int.toNat_zero]
  simp only [Nat.cast_zero, add_zero]
  rfl

/-- A carry leaves one bit more, and that is shifted out. -/
theorem shiftToTargetExponent_of_carry (least : -1074 ≤ e) :
    shiftToTargetExponent .binary64 (2 ^ 53) e .exact = (⟨2 ^ 52, false, false⟩, e + 1) := by
  have target : Format.binary64.targetExponent (totalExponent (2 ^ 53) e) = e + 1 := by
    rw [targetExponent_eq, Nat.log2_two_pow]
    omega
  have one : (e + 1 - e).toNat = 1 := by omega
  rw [shiftToTargetExponent, target, shiftToExponent, one]
  rfl

theorem fits_halfEven (positive : 0 < x) (few : halfEven (x / 2 ^ place x) < 2 ^ 53) :
    Fits (halfEven (x / 2 ^ place x)) (place x) := by
  have least : -1074 ≤ place x := le_max_right _ _
  refine ⟨few, least, ?_⟩
  rcases least.eq_or_lt with last | full
  · exact .inr last.symm
  · exact .inl (le_halfEven_scaled positive full)

/-- Rounding finds the nearest number. -/
theorem finite_roundWithAccuracy (s : Sign) (positive : 0 < x) (below : e ≤ place x)
    (stands : Stands (.ofMantissaAndAccuracy m accuracy) (x / 2 ^ e)) :
    Finite (roundWithAccuracy .binary64 s m e accuracy) s (rounded x) := by
  obtain ⟨em, shifted, scaled⟩ := shiftToTargetExponent_of_stands positive below stands
  rw [roundWithAccuracy, shifted]
  simp only [scaled.roundedMantissa]
  rcases (halfEven_scaled_le x).lt_or_eq with few | carry
  · have fits := fits_halfEven positive few
    simp only [shiftToTargetExponent_of_fits fits]
    by_cases none : halfEven (x / 2 ^ place x) = 0
    · rw [dif_pos none, rounded, none, Nat.cast_zero, zero_mul]
      exact .zero s
    · rw [dif_neg none]
      exact .nonzero _ fits
  · -- Rounded up to a power of two, the mantissa has a bit too many, which is a zero.
    have same : rounded x = (2 ^ 52 : ℕ) * 2 ^ (place x + 1) := by
      rw [rounded, carry, zpow_add₀ two_ne_zero]
      push_cast
      ring
    have least : -1074 ≤ place x := le_max_right _ _
    simp only [carry, shiftToTargetExponent_of_carry least]
    rw [dif_neg (by decide), same]
    exact .nonzero _ ⟨by decide, by omega, .inl le_rfl⟩

end Round

end ClaimAudit.Number
