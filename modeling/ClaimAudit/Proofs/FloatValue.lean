import ClaimAudit.Proofs.FloatRounding

/-! The values of floating-point numbers.

A number that is no infinity has an exact value, and numbers compare as their values do. Packing a
result keeps it where its value is in range, and makes it infinite where it is not; a sign and a
magnitude make out one number.
-/

set_option autoImplicit false

namespace ClaimAudit.Number

open Float.Model (Format UnpackedFloat totalExponent)
open Float.Model.UnpackedFloat

def signed : Sign → ℚ → ℚ
  | .positive, x => x
  | .negative, x => -x

/-- The exact value of a finite number. -/
def value? (f : Float) : Option ℚ :=
  match f.toModel.unpack with
  | .zero _ => some 0
  | .finite s m e _ => some (signed s (m * 2 ^ e))
  | _ => none

theorem Finite.nonneg {u : UnpackedFloat} {s : Sign} {x : ℚ} (finite : Finite u s x) : 0 ≤ x := by
  cases finite with
  | zero => exact le_rfl
  | nonzero => exact mul_nonneg (Nat.cast_nonneg _) (two_zpow_pos _).le

section Packing

theorem toNat_implied (m : BitVec 52) : (1#1 ++ m).toNat = 2 ^ 52 + m.toNat := by
  rw [BitVec.toNat_append, ← Nat.shiftLeft_add_eq_or_of_lt m.isLt]
  simp [Nat.shiftLeft_eq]

theorem toNat_implied_append {m : ℕ} (lower : 2 ^ 52 ≤ m) (upper : m < 2 ^ 53) :
    (1#1 ++ BitVec.ofNat 52 m).toNat = m := by
  rw [toNat_implied, BitVec.toNat_ofNat]
  omega

theorem toNat_field {e : ℤ} (least : -1074 ≤ e) (most : e ≤ 971) :
    (BitVec.ofNat 11 (e + 1075).toNat).toNat = (e + 1075).toNat := by
  rw [BitVec.toNat_ofNat]
  omega

theorem ofBitVec_toBitVec (s : Sign) : Sign.ofBitVec s.toBitVec = s := by
  cases s <;> rfl

theorem toBitVec_ofBitVec (b : BitVec 1) : (Sign.ofBitVec b).toBitVec = b := by
  revert b
  decide

theorem ofBitVec_injective {b c : BitVec 1} (same : Sign.ofBitVec b = Sign.ofBitVec c) :
    b = c := by
  rw [← toBitVec_ofBitVec b, same, toBitVec_ofBitVec]

theorem unpack_packComponents_full (s : Sign) {m : ℕ} {e : ℤ} (pos : 0 < m) (lower : 2 ^ 52 ≤ m)
    (upper : m < 2 ^ 53) (least : -1074 ≤ e) (most : e ≤ 971) :
    UnpackedFloat.unpack .binary64 (packComponents .binary64 s
      (BitVec.ofNat 11 (e + 1075).toNat) (BitVec.ofNat 52 m)) = .finite s m e pos := by
  have field := toNat_field least most
  have other (b : BitVec 11) (differs : b.toNat ≠ (e + 1075).toNat) :
      BitVec.ofNat 11 (e + 1075).toNat ≠ b :=
    fun same => differs (by rw [← same, field])
  have notLast : (-1#11).toNat ≠ (e + 1075).toNat := by
    show 2047 ≠ _
    omega
  have notFirst : (0#11).toNat ≠ (e + 1075).toNat := by
    show 0 ≠ _
    omega
  rw [UnpackedFloat.unpack]
  simp only [unpackExponent_packComponents, unpackMantissa_packComponents,
    unpackSign_packComponents, field, toNat_implied_append lower upper, ofBitVec_toBitVec]
  rw [if_neg (other _ notLast), if_neg (other _ notFirst)]
  have exponent : ((e + 1075).toNat : ℤ) - (1023 + 52 : ℕ) = e := by omega
  congr 1

/-- A mantissa that is not full has the least exponent, and the exponent field is zero. -/
theorem unpack_packComponents_small (s : Sign) {m : ℕ} (pos : 0 < m) (small : m < 2 ^ 52) :
    UnpackedFloat.unpack .binary64 (packComponents .binary64 s 0#11
      (BitVec.ofNat 52 m)) = .finite s m (-1074) pos := by
  have mantissa : (BitVec.ofNat 52 m).toNat = m := by
    rw [BitVec.toNat_ofNat, Nat.mod_eq_of_lt small]
  have some : BitVec.ofNat 52 m ≠ 0#52 := fun none => by
    rw [none] at mantissa
    exact pos.ne mantissa
  rw [UnpackedFloat.unpack]
  simp only [unpackExponent_packComponents, unpackMantissa_packComponents,
    unpackSign_packComponents, ofBitVec_toBitVec, mantissa]
  rw [if_neg (by decide), if_pos trivial, dif_neg some]
  rfl

/-- What is packed can be unpacked again. -/
theorem unpack_pack_finite (s : Sign) {m : ℕ} {e : ℤ} (pos : 0 < m) (fits : Fits m e)
    (most : e ≤ 971) :
    (Float.Model.pack (.finite s m e pos)).unpack = .finite s m e pos := by
  have few := fits.log2_le
  obtain ⟨upper, least, full⟩ := fits
  have biased : (e + (Format.binary64.exponentBias : ℤ) + (52 : ℕ)).toNat = (e + 1075).toNat := by
    show (e + 1023 + 52).toNat = (e + 1075).toNat
    omega
  show UnpackedFloat.unpack .binary64 (UnpackedFloat.pack .binary64 _) = _
  rw [UnpackedFloat.pack]
  simp only [biased]
  rw [if_neg (by omega)]
  by_cases normal : 2 ^ 52 ≤ m
  · have bits : m.log2 = 52 := (Nat.log2_eq_iff (by omega)).mpr ⟨normal, upper⟩
    rw [if_pos (by rw [bits]; rfl)]
    exact unpack_packComponents_full s pos normal upper least most
  · have small : m < 2 ^ 52 := by omega
    have bits : m.log2 < 52 := (Nat.log2_lt pos.ne').mpr small
    rw [if_neg (by show m.log2 + 1 ≠ 53; omega), full.resolve_left normal]
    exact unpack_packComponents_small s pos small

theorem unpack_pack_zero (s : Sign) : (Float.Model.pack (.zero s)).unpack = .zero s := by
  cases s <;> rfl

theorem unpack_pack_infinity (s : Sign) :
    (Float.Model.pack (.infinity s)).unpack = .infinity s := by
  cases s <;> rfl

theorem unpack_pack_overflow (s : Sign) {m : ℕ} {e : ℤ} (pos : 0 < m) (great : 972 ≤ e) :
    (Float.Model.pack (.finite s m e pos)).unpack = .infinity s := by
  have packed : Float.Model.pack (.finite s m e pos) = Float.Model.pack (.infinity s) := by
    have beyond : 2 ^ 11 ≤ (e + (Format.binary64.exponentBias : ℤ) + (52 : ℕ)).toNat + 1 := by
      show 2 ^ 11 ≤ (e + 1023 + 52).toNat + 1
      omega
    unfold Float.Model.pack
    simp only [UnpackedFloat.pack]
    simp only [if_pos beyond]
  rw [packed, unpack_pack_infinity]

variable {u : UnpackedFloat} {s : Sign} {x : ℚ}

theorem Finite.unpack_pack (finite : Finite u s x) (small : x < 2 ^ (1024 : ℤ)) :
    (Float.Model.pack u).unpack = u := by
  cases finite with
  | zero => exact unpack_pack_zero s
  | nonzero pos fits => exact unpack_pack_finite s pos fits (fits.lt_limit_iff.mp small)

theorem Finite.unpack_pack_infinity (finite : Finite u s x) (great : 2 ^ (1024 : ℤ) ≤ x) :
    (Float.Model.pack u).unpack = .infinity s := by
  cases finite with
  | zero => exact absurd great (not_le.mpr (two_zpow_pos _))
  | nonzero pos fits =>
    exact unpack_pack_overflow s pos
      (not_le.mp fun most => great.not_gt (fits.lt_limit_iff.mpr most))

/-- Every number that is unpacked has its proper form. -/
theorem fits_of_unpack {f : Float.Model} {s : Sign} {m : ℕ} {e : ℤ} {pos : 0 < m}
    (unpacked : f.unpack = .finite s m e pos) : Fits m e ∧ e ≤ 971 := by
  unfold Float.Model.unpack UnpackedFloat.unpack at unpacked
  simp only at unpacked
  split at unpacked
  · split at unpacked <;> cases unpacked
  · rename_i notLast
    split at unpacked
    · rename_i first
      split at unpacked
      · cases unpacked
      · cases unpacked
        -- A number of the least exponent has no implied bit.
        refine ⟨⟨(BitVec.isLt _).trans (by decide), ?_, .inr ?_⟩, ?_⟩ <;> rw [first]
        · decide
        · rfl
        · decide
    · rename_i notFirst
      cases unpacked
      have below := (@unpackExponent .binary64 f.toBits.toBitVec).isLt
      have notFirst : (@unpackExponent .binary64 f.toBits.toBitVec).toNat ≠ 0 :=
        BitVec.toNat_ne_iff_ne.mpr notFirst
      have notLast : (@unpackExponent .binary64 f.toBits.toBitVec).toNat ≠ 2047 :=
        BitVec.toNat_ne_iff_ne.mpr notLast
      refine ⟨⟨BitVec.isLt _, ?_, .inl ?_⟩, ?_⟩
      · show -1074 ≤ ((unpackExponent _).toNat : ℤ) - (1023 + 52)
        omega
      · rw [BitVec.toNat_append]
        exact Nat.left_le_or
      · show ((unpackExponent _).toNat : ℤ) - (1023 + 52) ≤ 971
        simp only [Format.binary64] at below
        omega

theorem toNat_unpackMantissa (b : BitVec 64) :
    (@unpackMantissa .binary64 b).toNat = b.toNat % 2 ^ 52 := by
  rw [unpackMantissa, BitVec.toNat_cast, BitVec.extractLsb_toNat]
  rfl

theorem toNat_unpackExponent (b : BitVec 64) :
    (@unpackExponent .binary64 b).toNat = b.toNat / 2 ^ 52 % 2 ^ 11 := by
  rw [unpackExponent, BitVec.toNat_cast, BitVec.extractLsb_toNat, Nat.shiftRight_eq_div_pow]
  rfl

theorem toNat_unpackSign (b : BitVec 64) :
    (@unpackSign .binary64 b).toNat = b.toNat / 2 ^ 63 % 2 := by
  rw [unpackSign, BitVec.toNat_cast, BitVec.extractLsb_toNat, Nat.shiftRight_eq_div_pow]
  rfl

theorem eq_of_components {b c : BitVec 64}
    (sign : @unpackSign .binary64 b = @unpackSign .binary64 c)
    (exponent : @unpackExponent .binary64 b = @unpackExponent .binary64 c)
    (mantissa : @unpackMantissa .binary64 b = @unpackMantissa .binary64 c) : b = c := by
  have high := congrArg BitVec.toNat sign
  have middle := congrArg BitVec.toNat exponent
  have low := congrArg BitVec.toNat mantissa
  rw [toNat_unpackSign, toNat_unpackSign] at high
  rw [toNat_unpackExponent, toNat_unpackExponent] at middle
  rw [toNat_unpackMantissa, toNat_unpackMantissa] at low
  have := b.isLt
  have := c.isLt
  exact BitVec.eq_of_toNat_eq (by omega)

/-- The sign, the exponent field and the mantissa field that a number is packed with. -/
def fields? : UnpackedFloat → Option (Sign × ℕ × ℕ)
  | .notANumber => none
  | .infinity s => some (s, 2047, 0)
  | .zero s => some (s, 0, 0)
  | .finite s m e _ => some (s, if 2 ^ 52 ≤ m then (e + 1075).toNat else 0, m % 2 ^ 52)

theorem fields?_unpack (f : Float.Model) (number : f.unpack ≠ .notANumber) :
    fields? f.unpack = some (Sign.ofBitVec (@unpackSign .binary64 f.toBits.toBitVec),
      (@unpackExponent .binary64 f.toBits.toBitVec).toNat,
      (@unpackMantissa .binary64 f.toBits.toBitVec).toNat) := by
  have below : (@unpackMantissa .binary64 f.toBits.toBitVec).toNat < 2 ^ 52 := BitVec.isLt _
  unfold Float.Model.unpack UnpackedFloat.unpack at number ⊢
  simp only at number ⊢
  split
  case isTrue last =>
    rw [if_pos last] at number
    split
    case isTrue none =>
      rw [last, none]
      rfl
    case isFalse some => exact absurd (if_neg some) number
  case isFalse =>
    split
    case isTrue first =>
      split
      case isTrue none =>
        rw [first, none]
        rfl
      case isFalse =>
        rw [fields?, if_neg below.not_ge, first, Nat.mod_eq_of_lt below]
        rfl
    case isFalse =>
      have whole := toNat_implied (@unpackMantissa .binary64 f.toBits.toBitVec)
      have exponent : (((@unpackExponent .binary64 f.toBits.toBitVec).toNat : ℤ) - (1023 + 52 : ℕ) +
          1075).toNat = (@unpackExponent .binary64 f.toBits.toBitVec).toNat := by omega
      have mantissa : (1#1 ++ @unpackMantissa .binary64 f.toBits.toBitVec).toNat % 2 ^ 52 =
          (@unpackMantissa .binary64 f.toBits.toBitVec).toNat := by
        rw [whole, Nat.add_mod_left, Nat.mod_eq_of_lt below]
      rw [fields?, if_pos (by rw [whole]; omega), mantissa]
      exact congrArg (fun e => some (_, e, _)) exponent

theorem unpack_injective {f g : Float.Model} (number : f.unpack ≠ .notANumber)
    (same : f.unpack = g.unpack) : f = g := by
  have fields := fields?_unpack f number
  rw [same, fields?_unpack g (same ▸ number)] at fields
  simp only [Option.some.injEq, Prod.mk.injEq] at fields
  obtain ⟨sign, exponent, mantissa⟩ := fields
  have bits : f.toBits.toBitVec = g.toBits.toBitVec :=
    eq_of_components (ofBitVec_injective sign).symm (BitVec.eq_of_toNat_eq exponent).symm
      (BitVec.eq_of_toNat_eq mantissa).symm
  cases f
  cases g
  congr
  exact UInt64.toBitVec_inj.mp bits

end Packing

section Value

variable {f g : Float} {x y : ℚ}

theorem value?_of_finite {s : Sign} (finite : Finite f.toModel.unpack s x) :
    value? f = some (signed s x) := by
  rw [value?]
  generalize f.toModel.unpack = u at finite
  cases finite with
  | zero => cases s <;> rfl
  | nonzero => rfl

theorem finite_of_value? {v : ℚ} (valued : value? f = some v) :
    ∃ s x, Finite f.toModel.unpack s x ∧ v = signed s x := by
  unfold value? at valued
  split at valued
  case h_1 s unpacked =>
    cases valued
    rw [unpacked]
    exact ⟨s, 0, .zero s, by cases s <;> rfl⟩
  case h_2 s m e pos unpacked =>
    cases valued
    rw [unpacked]
    exact ⟨s, _, .nonzero pos (fits_of_unpack unpacked).1, rfl⟩
  case h_3 => cases valued

theorem lt_limit_of_finite {s : Sign} (finite : Finite f.toModel.unpack s x) :
    x < 2 ^ (1024 : ℤ) := by
  generalize unpacked : f.toModel.unpack = u at finite
  cases finite with
  | zero => exact two_zpow_pos _
  | nonzero pos fits => exact fits.lt_limit_iff.mpr (fits_of_unpack unpacked).2

theorem isFinite_iff_value? : f.isFinite ↔ (value? f).isSome := by
  show f.toModel.unpack.isFinite ↔ _
  rw [value?]
  cases f.toModel.unpack <;> simp [UnpackedFloat.isFinite]

/-- A value and its rank: first its class, then its exponent and its mantissa. -/
inductive Placed : ℚ → ℤ ×ₗ ℤ ×ₗ ℤ → Prop where
  | zero : Placed 0 (toLex (0, toLex (0, 0)))
  | positive {m : ℕ} {e : ℤ} (pos : 0 < m) (fits : Fits m e) :
    Placed (m * 2 ^ e) (toLex (1, toLex (e, m)))
  | negative {m : ℕ} {e : ℤ} (pos : 0 < m) (fits : Fits m e) :
    Placed (-(m * 2 ^ e)) (toLex (-1, toLex (-e, -m)))

theorem Finite.exists_placed {u : UnpackedFloat} {s : Sign} (finite : Finite u s x) :
    ∃ a, rank? u = some a ∧ Placed (signed s x) a := by
  cases finite with
  | zero s =>
    refine ⟨_, rfl, ?_⟩
    rw [show signed s 0 = 0 by cases s <;> simp [signed]]
    exact .zero
  | nonzero pos fits =>
    cases s with
    | negative => exact ⟨_, rfl, .negative pos fits⟩
    | positive => exact ⟨_, rfl, .positive pos fits⟩

theorem mul_zpow_pos {m : ℕ} (pos : 0 < m) (e : ℤ) : (0 : ℚ) < m * 2 ^ e :=
  mul_pos (Nat.cast_pos.mpr pos) (two_zpow_pos e)

theorem Placed.lt_iff {v w : ℚ} {a b : ℤ ×ₗ ℤ ×ₗ ℤ} (first : Placed v a) (second : Placed w b) :
    a < b ↔ v < w := by
  cases first with
  | zero =>
    cases second with
    | zero => simp
    | positive pos => simp [Prod.Lex.toLex_lt_toLex, mul_zpow_pos pos]
    | negative pos => simp [Prod.Lex.toLex_lt_toLex, (mul_zpow_pos pos _).le]
  | @positive m e pos fits =>
    have above := mul_zpow_pos pos e
    cases second with
    | zero => simp [Prod.Lex.toLex_lt_toLex, above.le]
    | positive _ fits' =>
      simp only [Prod.Lex.toLex_lt_toLex, fits.lt_iff fits', lt_self_iff_false, false_or, true_and,
        Nat.cast_lt]
    | @negative n f pos' =>
      have order : -(n * 2 ^ f : ℚ) ≤ m * 2 ^ e := by linarith [mul_zpow_pos pos' f]
      simp [Prod.Lex.toLex_lt_toLex, order]
  | @negative m e pos fits =>
    have above := mul_zpow_pos pos e
    cases second with
    | zero => simp [Prod.Lex.toLex_lt_toLex, above]
    | @positive n f pos' =>
      have order : -(m * 2 ^ e : ℚ) < n * 2 ^ f := by linarith [mul_zpow_pos pos' f]
      simp [Prod.Lex.toLex_lt_toLex, order]
    | negative _ fits' =>
      -- Below zero the greater magnitude is the lesser number.
      simp only [Prod.Lex.toLex_lt_toLex, neg_lt_neg_iff, fits'.lt_iff fits, neg_inj,
        lt_self_iff_false, false_or, true_and, Nat.cast_lt, eq_comm (a := e)]

theorem rank_lt_iff_of_value? {v w : ℚ} (first : value? f = some v) (second : value? g = some w) :
    ∃ a b, rank? f.toModel.unpack = some a ∧ rank? g.toModel.unpack = some b ∧
      (a < b ↔ v < w) := by
  obtain ⟨s, x, finite, rfl⟩ := finite_of_value? first
  obtain ⟨t, y, finite', rfl⟩ := finite_of_value? second
  obtain ⟨a, ranked, placed⟩ := finite.exists_placed
  obtain ⟨b, ranked', placed'⟩ := finite'.exists_placed
  exact ⟨a, b, ranked, ranked', placed.lt_iff placed'⟩

theorem lt_iff_value {v w : ℚ} (first : value? f = some v) (second : value? g = some w) :
    f < g ↔ v < w := by
  obtain ⟨a, b, ranked, ranked', less⟩ := rank_lt_iff_of_value? first second
  simp only [lt_iff_rank, ranked, ranked', Option.some.injEq, exists_and_left, exists_eq_left',
    less]

theorem le_iff_value {v w : ℚ} (first : value? f = some v) (second : value? g = some w) :
    f ≤ g ↔ v ≤ w := by
  obtain ⟨a, b, ranked, ranked', less⟩ := rank_lt_iff_of_value? second first
  simp only [le_iff_rank, ranked, ranked', Option.some.injEq, exists_and_left, exists_eq_left',
    ← not_lt, less]

end Value

/-- A result has the value `x`, or is infinite where that is out of range. -/
def Holds (f : Float) (s : Sign) (x : ℚ) : Prop :=
  x < 2 ^ (1024 : ℤ) ∧ Finite f.toModel.unpack s x ∨
    2 ^ (1024 : ℤ) ≤ x ∧ f.toModel.unpack = .infinity s

theorem holds_pack {u : UnpackedFloat} {s : Sign} {x : ℚ} (finite : Finite u s x) :
    Holds (.ofModel (.pack u)) s x := by
  rcases lt_or_ge x (2 ^ (1024 : ℤ)) with small | great
  · refine .inl ⟨small, ?_⟩
    show Finite (Float.Model.pack u).unpack s x
    rw [finite.unpack_pack small]
    exact finite
  · exact .inr ⟨great, finite.unpack_pack_infinity great⟩

theorem Fits.unique {m n : ℕ} {e f : ℤ} (first : Fits m e) (second : Fits n f)
    (same : (m * 2 ^ e : ℚ) = n * 2 ^ f) : m = n ∧ e = f := by
  have least := (first.lt_iff second).not.mp same.not_lt
  have most := (second.lt_iff first).not.mp same.not_gt
  omega

theorem Finite.unique {u v : UnpackedFloat} {s : Sign} {x y : ℚ} (first : Finite u s x)
    (second : Finite v s y) (same : x = y) : u = v := by
  cases first with
  | zero =>
    cases second with
    | zero => rfl
    | nonzero pos => exact absurd same (mul_zpow_pos pos _).ne
  | nonzero pos fits =>
    cases second with
    | zero => exact absurd same (mul_zpow_pos pos _).ne'
    | nonzero pos' fits' =>
      obtain ⟨rfl, rfl⟩ := fits.unique fits' same
      rfl

theorem Finite.ne_notANumber {u : UnpackedFloat} {s : Sign} {x : ℚ} (finite : Finite u s x) :
    u ≠ .notANumber := by
  rintro rfl
  cases finite

theorem Holds.unique {f g : Float} {s : Sign} {x : ℚ} (first : Holds f s x)
    (second : Holds g s x) : f = g := by
  have model : f.toModel = g.toModel := by
    rcases first with ⟨small, finite⟩ | ⟨great, infinite⟩
    · have finite' := (second.resolve_right fun beyond => beyond.1.not_gt small).2
      exact unpack_injective finite.ne_notANumber (finite.unique finite' rfl)
    · have infinite' := (second.resolve_left fun within => within.1.not_ge great).2
      have number : f.toModel.unpack ≠ .notANumber := by
        rw [infinite]
        intro none
        cases none
      exact unpack_injective number (infinite.trans infinite'.symm)
  cases f
  cases g
  exact congrArg Float.ofModel model

end ClaimAudit.Number
