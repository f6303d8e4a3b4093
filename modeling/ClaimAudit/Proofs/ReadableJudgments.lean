import ClaimAudit.Proofs.JsonNumbers
import ClaimAudit.Proofs.Judging
import ClaimAudit.Proofs.NumeralText
import ClaimAudit.Proofs.TextPieces

/-! Which replies are judgments.

A reply is read as a judgment exactly if its object spells a status that says something and states
a confidence that is a finite number, in digits or as a text. Nothing else in it matters for that:
quotes are taken where the object has some, whatever shape they come in.
-/

set_option autoImplicit false

namespace ClaimAudit

namespace Status

/-- A character that may be written for a letter of a name. -/
inductive Variant : Char → Char → Prop where
  | same (c : Char) : Variant c c
  | capital {c : Char} (upper : c.isUpper = true) : Variant c.toLower c
  | hyphen : Variant '_' '-'
  | space : Variant '_' ' '

/-- A text that spells a status: variants of the letters of its name, between blanks. -/
inductive Spells (status : Status) : List Char → Prop where
  | intro {lead word trail : List Char} (leading : ∀ c ∈ lead, Text.isBlank c = true)
    (letters : List.Forall₂ Variant status.name.toList word)
    (trailing : ∀ c ∈ trail, Text.isBlank c = true) : Spells status (lead ++ (word ++ trail))

theorem of_isUpper {P : Char → Prop} (all : ∀ n < 91, 65 ≤ n → P (Char.ofNat n)) {c : Char}
    (upper : c.isUpper = true) : P c := by
  have range : c.val ≥ 'A'.val ∧ c.val ≤ 'Z'.val := by simpa [Char.isUpper] using upper
  have known := all c.toNat (Nat.lt_succ_of_le range.2) range.1
  rwa [Char.ofNat_toNat] at known

theorem toLower_of_not_isUpper {c : Char} (lower : ¬ c.isUpper = true) : c.toLower = c := by
  have outside : ¬ (c.val ≥ 'A'.val ∧ c.val ≤ 'Z'.val) := by simpa [Char.isUpper] using lower
  rw [Char.toLower, dif_neg outside]

theorem lowerAscii_eq_toLower (c : Char) : lowerAscii c = c.toLower := by
  by_cases upper : c.isUpper = true
  · exact of_isUpper (P := fun c => lowerAscii c = c.toLower) (by decide) upper
  · have outside : ¬ ('A' ≤ c ∧ c ≤ 'Z') := fun range => upper (decide_eq_true range)
    rw [toLower_of_not_isUpper upper, lowerAscii, if_neg outside]

def Plain (c : Char) : Prop := normalChar c = c ∧ Text.isBlank c = false

instance (c : Char) : Decidable (Plain c) := inferInstanceAs (Decidable (_ ∧ _))

theorem plain_of_mem_name (status : Status) : ∀ c ∈ status.name.toList, Plain c := by
  have all : status.name.toList.all (fun c => decide (Plain c)) = true := by
    cases status <;> decide +kernel
  simpa using all

theorem normalChar_eq_iff {letter c : Char} (plain : Plain letter) :
    normalChar c = letter ↔ Variant letter c := by
  constructor
  · rintro rfl
    by_cases joint : c = '-' ∨ c = ' '
    · rcases joint with rfl | rfl
      · exact .hyphen
      · exact .space
    · rw [normalChar, if_neg joint, lowerAscii_eq_toLower]
      by_cases upper : c.isUpper = true
      · exact .capital upper
      · rw [toLower_of_not_isUpper upper]
        exact .same c
  · intro variant
    cases variant with
    | same => exact plain.1
    | capital upper =>
      have joint : ¬ (c = '-' ∨ c = ' ') := by
        rintro (rfl | rfl) <;> cases upper
      rw [normalChar, if_neg joint, lowerAscii_eq_toLower]
    | hyphen | space => rfl

theorem map_normalChar_eq_iff {name word : List Char} (plain : ∀ c ∈ name, Plain c) :
    word.map normalChar = name ↔ List.Forall₂ Variant name word := by
  induction name generalizing word with
  | nil => simp
  | cons letter name ih =>
    cases word with
    | nil => simp
    | cons c word =>
      rw [List.map_cons, List.cons.injEq, List.forall₂_cons,
        normalChar_eq_iff (plain letter List.mem_cons_self),
        ih fun d member => plain d (List.mem_cons_of_mem letter member)]

theorem Variant.not_isBlank {letter c : Char} (variant : Variant letter c)
    (ink : Text.isBlank letter = false) (inner : letter ≠ '_') : Text.isBlank c = false := by
  cases variant with
  | same => exact ink
  | capital upper => exact of_isUpper (P := fun c => Text.isBlank c = false) (by decide) upper
  | hyphen | space => exact absurd rfl inner

theorem ink_of_head {name word : List Char} (letters : List.Forall₂ Variant name word)
    (ink : ∀ c ∈ name.head?, Text.isBlank c = false ∧ c ≠ '_') :
    ∀ c ∈ word.head?, Text.isBlank c = false := by
  cases letters with
  | nil => simp
  | cons first others =>
    rintro c ⟨⟩
    obtain ⟨visible, inner⟩ := ink _ rfl
    exact first.not_isBlank visible inner

theorem ink_of_name (status : Status) :
    (∀ c ∈ status.name.toList.head?, Text.isBlank c = false ∧ c ≠ '_') ∧
      ∀ c ∈ status.name.toList.reverse.head?, Text.isBlank c = false ∧ c ≠ '_' := by
  have both : (status.name.toList.head?.all fun c => !Text.isBlank c && c != '_') = true ∧
      (status.name.toList.reverse.head?.all fun c => !Text.isBlank c && c != '_') = true := by
    cases status <;> decide +kernel
  simpa [Option.all_eq_true] using both

theorem Spells.letters {status : Status} {text : List Char} (spells : Spells status text) :
    List.Forall₂ Variant status.name.toList (Text.trimChars text) := by
  obtain ⟨leading, letters, trailing⟩ := spells
  obtain ⟨begins, ends⟩ := ink_of_name status
  have first := ink_of_head letters begins
  have last := ink_of_head (List.rel_reverse letters) ends
  rw [List.head?_reverse] at last
  rwa [Text.trimChars_append leading trailing first last]

/-- A text is read as a status exactly if it spells this status. -/
theorem ofChars?_eq_some_iff {text : List Char} {status : Status} :
    ofChars? text = some status ↔ Spells status text := by
  have plain := plain_of_mem_name status
  constructor
  · intro read
    have name := List.find?_some read
    obtain ⟨lead, trail, same, leading, trailing⟩ := Text.exists_margins text
    rw [same, List.append_assoc]
    exact .intro leading ((map_normalChar_eq_iff plain).mp (of_decide_eq_true name).symm) trailing
  · intro spells
    rw [ofChars?, (map_normalChar_eq_iff plain).mpr spells.letters]
    -- The names differ, so the first that fits is that of the status.
    cases status <;> decide +kernel

end Status

namespace Verification

open Number (value? rounded Finite Denotes)

section Confidence

variable {x c : Float} {v : Rat}

theorem value?_zero : value? 0 = some 0 := Number.value?_ofNat (k := 0) (by decide)

theorem value?_one : value? 1 = some 1 := by
  exact_mod_cast Number.value?_ofNat (k := 1) (by decide)

theorem value?_hundred : value? 100 = some 100 := by
  exact_mod_cast Number.value?_ofNat (k := 100) (by decide)

theorem rounded_hundredth_le_one (nonneg : 0 ≤ v) (most : v ≤ 100) : rounded (v / 100) ≤ 1 := by
  have one : rounded (1 : Nat) = (1 : Nat) := Number.rounded_natCast (by decide)
  calc rounded (v / 100) ≤ rounded (1 : Nat) := Number.rounded_mono (div_nonneg nonneg (by norm_num))
        ((div_le_one (by norm_num)).mpr most |>.trans (by rw [Nat.cast_one]))
    _ = 1 := by rw [one, Nat.cast_one]

/-- A hundredth of a number is rounded once. -/
theorem value?_div_hundred (valued : value? x = some v) (positive : 0 < v) (most : v ≤ 100) :
    value? (x / 100) = some (rounded (v / 100)) := by
  obtain ⟨s, m, finite, rfl⟩ := Number.finite_of_value? valued
  have hundred : Finite (Float.ofNat 100).toModel.unpack .positive (rounded (100 : Nat)) :=
    Number.finite_ofNat (by decide)
  rw [Number.rounded_natCast (by decide), Nat.cast_ofNat] at hundred
  cases s with
  | negative => exact absurd positive (not_lt.mpr (neg_nonpos.mpr finite.nonneg))
  | positive =>
    have divided := Number.holds_div finite hundred (by norm_num)
    exact Number.value?_of_finite (divided.finite
      ((rounded_hundredth_le_one finite.nonneg most).trans_lt (one_lt_zpow₀ one_lt_two (by decide))))

theorem unitInterval_of_neg (valued : value? x = some v) (below : v < 0) : unitInterval x = 0 := by
  have less : x < 0 := (Number.lt_iff_value valued value?_zero).mpr below
  have none : ¬ (1 : Float) < 0 := by
    rw [Number.lt_iff_value value?_one value?_zero]
    norm_num
  simp only [unitInterval, if_pos less, if_neg none]

theorem unitInterval_of_unit (valued : value? x = some v) (nonneg : 0 ≤ v) (most : v ≤ 1) :
    unitInterval x = x := by
  have least : ¬ x < 0 := by rwa [Number.lt_iff_value valued value?_zero, not_lt]
  have greatest : ¬ 1 < x := by rwa [Number.lt_iff_value value?_one valued, not_lt]
  simp only [unitInterval, if_neg least, if_neg greatest]

theorem unitInterval_of_great (valued : value? x = some v) (above : 1 < v) :
    unitInterval x = 1 := by
  have least : ¬ x < 0 := by
    rw [Number.lt_iff_value valued value?_zero, not_lt]
    exact zero_le_one.trans above.le
  have greater : 1 < x := (Number.lt_iff_value value?_one valued).mpr above
  simp only [unitInterval, if_neg least, if_pos greater]

theorem scaled_cases (valued : value? x = some v) :
    (v < 0 ∧ scaled x = 0) ∨ (0 ≤ v ∧ v ≤ 1 ∧ scaled x = x) ∨
      (1 < v ∧ v ≤ 100 ∧ scaled x = x / 100) ∨ 100 < v ∧ scaled x = 1 := by
  have above := Number.lt_iff_value value?_one valued
  have most := Number.le_iff_value valued value?_hundred
  simp only [scaled, Bool.and_eq_true, decide_eq_true_eq, above, most]
  rcases le_or_gt v 1 with small | great
  · rw [if_neg fun both => small.not_gt both.1]
    rcases lt_or_ge v 0 with below | nonneg
    · exact .inl ⟨below, unitInterval_of_neg valued below⟩
    · exact .inr (.inl ⟨nonneg, small, unitInterval_of_unit valued nonneg small⟩)
  · rcases le_or_gt v 100 with percentage | beyond
    · rw [if_pos ⟨great, percentage⟩]
      have positive := zero_lt_one.trans great
      exact .inr (.inr (.inl ⟨great, percentage,
        unitInterval_of_unit (value?_div_hundred valued positive percentage)
          (Number.rounded_nonneg _) (rounded_hundredth_le_one positive.le percentage)⟩))
    · rw [if_neg fun both => beyond.not_ge both.2]
      exact .inr (.inr (.inr ⟨beyond, unitInterval_of_great valued great⟩))

/-- A number above one and up to a hundred is a percentage, and the others are kept in the unit
interval. -/
structure Limits (x c : Float) : Prop where
  low : x < 0 → c = 0
  same : 0 ≤ x → x ≤ 1 → c = x
  percentage : 1 < x → x ≤ 100 → c = x / 100
  high : 100 < x → c = 1

theorem limits_iff (finite : x.isFinite) : Limits x c ↔ scaled x = c := by
  obtain ⟨v, valued⟩ := Option.isSome_iff_exists.mp (Number.isFinite_iff_value?.mp finite)
  have low := Number.lt_iff_value valued value?_zero
  have least := Number.le_iff_value value?_zero valued
  have most := Number.le_iff_value valued value?_one
  have above := Number.lt_iff_value value?_one valued
  have percent := Number.le_iff_value valued value?_hundred
  have high := Number.lt_iff_value value?_hundred valued
  constructor
  · intro limits
    rcases scaled_cases valued with ⟨below, same⟩ | ⟨nonneg, small, same⟩ | ⟨great, some, same⟩ |
      ⟨beyond, same⟩
    · rw [same, limits.low (low.mpr below)]
    · rw [same, limits.same (least.mpr nonneg) (most.mpr small)]
    · rw [same, limits.percentage (above.mpr great) (percent.mpr some)]
    · rw [same, limits.high (high.mpr beyond)]
  · -- Each range excludes the other three.
    rintro rfl
    constructor <;> simp only [low, least, most, above, percent, high] <;> intros <;>
      rcases scaled_cases valued with ⟨_, same⟩ | ⟨_, _, same⟩ | ⟨_, _, same⟩ | ⟨_, same⟩ <;>
      first | exact same | (exfalso; linarith)

/-- A confidence is a finite number in the unit interval. -/
structure InUnit (c : Float) : Prop where
  finite : c.isFinite
  least : 0 ≤ c
  most : c ≤ 1

theorem inUnit_of_value? (valued : value? c = some v) (least : 0 ≤ v) (most : v ≤ 1) :
    InUnit c where
  finite := Number.isFinite_iff_value?.mpr (by rw [valued]; rfl)
  least := (Number.le_iff_value value?_zero valued).mpr least
  most := (Number.le_iff_value valued value?_one).mpr most

theorem unitInterval_of_inUnit (inside : InUnit c) : unitInterval c = c := by
  obtain ⟨v, valued⟩ := Option.isSome_iff_exists.mp (Number.isFinite_iff_value?.mp inside.finite)
  exact unitInterval_of_unit valued ((Number.le_iff_value value?_zero valued).mp inside.least)
    ((Number.le_iff_value valued value?_one).mp inside.most)

theorem inUnit_scaled (finite : x.isFinite) : InUnit (scaled x) := by
  obtain ⟨v, valued⟩ := Option.isSome_iff_exists.mp (Number.isFinite_iff_value?.mp finite)
  rcases scaled_cases valued with ⟨_, same⟩ | ⟨least, most, same⟩ | ⟨great, some, same⟩ | ⟨_, same⟩ <;>
    rw [same]
  · exact inUnit_of_value? value?_zero le_rfl zero_le_one
  · exact inUnit_of_value? valued least most
  · have positive := zero_lt_one.trans great
    exact inUnit_of_value? (value?_div_hundred valued positive some) (Number.rounded_nonneg _)
      (rounded_hundredth_le_one positive.le some)
  · exact inUnit_of_value? value?_one zero_le_one le_rfl

theorem inUnit_default : InUnit 0.5 := by
  have half : (2 : Rat) ^ (-1 : Int) = 1 / 2 := by norm_num
  have fraction : Number.scientific 5 true 1 = 2 ^ (-1 : Int) := by
    rw [Number.scientific, if_pos rfl, half]
    norm_num
  have holds := Number.holds_ofScientific (m := 5) (by decide) true 1
  rw [fraction, Number.rounded_two_zpow (by decide), half] at holds
  have small : (1 / 2 : Rat) < 2 ^ (1024 : Int) :=
    one_half_lt_one.trans (one_lt_zpow₀ one_lt_two (by decide))
  exact inUnit_of_value? (Number.value?_of_finite (holds.finite small))
    (by norm_num [Number.signed]) (by norm_num [Number.signed])

/-- A text of a number with any number of percent signs behind it. Blanks may stand around the
number and behind the signs. -/
inductive Written (x : Float) : List Char → Prop where
  | intro {lead text gap trail : List Char} (leading : ∀ c ∈ lead, Text.isBlank c = true)
    (denotes : Denotes text x) (gapped : ∀ c ∈ gap, Text.isBlank c = true) (signs : Nat)
    (trailing : ∀ c ∈ trail, Text.isBlank c = true) :
    Written x (lead ++ (text ++ gap ++ List.replicate signs '%' ++ trail))

/-- A member that states a finite number, if it states any. -/
inductive Numeric : Option Json.Value → Prop where
  | absent : Numeric none
  | null : Numeric (some .null)
  | number (n : Json.Number) : Numeric (some (.number n))
  | text {s : String} {x : Float} (written : Written x s.toList) (finite : x.isFinite) :
    Numeric (some (.string s))

/-- A number in a text, as a floating-point number: the one nearest to it if it is whole. -/
inductive Amounts : Json.Number → Float → Prop where
  | whole {k : Int} {x : Float}
    (nearest : Number.Holds x (if k < 0 then .negative else .positive) (rounded k.natAbs)) :
    Amounts (.whole k) x
  | real (x : Float) : Amounts (.real x) x

inductive States : Option Json.Value → Float → Prop where
  | absent : States none 0.5
  | null : States (some .null) 0.5
  | number {n : Json.Number} {x c : Float} (amounts : Amounts n x) (limits : Limits x c) :
    States (some (.number n)) c
  | text {s : String} {x c : Float} (written : Written x s.toList) (finite : x.isFinite)
    (limits : Limits x c) : States (some (.string s)) c

theorem amounts_iff {n : Json.Number} : Amounts n x ↔ n.toFloat = x := by
  constructor
  · rintro (nearest | x)
    · exact (Number.holds_ofInt _).unique nearest
    · rfl
  · rintro rfl
    cases n with
    | whole k => exact .whole (Number.holds_ofInt k)
    | real x => exact .real x

theorem dropPercent_append {rest : List Char} (bare : ∀ c ∈ rest.getLast?, c ≠ '%') (signs : Nat) :
    dropPercent (rest ++ List.replicate signs '%') = rest :=
  Text.rdropWhile_append (fun _ sign => decide_eq_true (List.eq_of_mem_replicate sign))
    fun c last => decide_eq_false (bare c last)

theorem exists_signs (cs : List Char) :
    ∃ signs, cs = dropPercent cs ++ List.replicate signs '%' := by
  have signs : ∀ c ∈ cs.rtakeWhile (· = '%'), c = '%' := fun c member => by
    simpa using List.mem_rtakeWhile_imp member
  refine ⟨(cs.rtakeWhile (· = '%')).length, ?_⟩
  rw [← List.eq_replicate_of_mem signs]
  exact List.rdropWhile_append_rtakeWhile.symm

section Numerals

variable {d : Number.Decimal} {lead text gap trail : List Char} (numeral : Number.Numeral d text)
  (leading : ∀ c ∈ lead, Text.isBlank c = true) (gapped : ∀ c ∈ gap, Text.isBlank c = true)
  (trailing : ∀ c ∈ trail, Text.isBlank c = true)

include numeral gapped in
theorem dropPercent_numeral (signs : Nat) :
    dropPercent (text ++ gap ++ List.replicate signs '%') = text ++ gap := by
  refine dropPercent_append (fun c last => ?_) signs
  rcases List.mem_append.mp (List.mem_of_mem_getLast? last) with written | blank
  · exact (numeral.ofNumeral c written).ink.2
  · rintro rfl
    exact absurd (gapped '%' blank) (by decide)

include numeral leading gapped trailing

theorem exists_gap_of_written (signs : Nat) : ∃ rest, (∀ c ∈ rest, Text.isBlank c = true) ∧
    dropPercent (Text.trimChars
      (lead ++ (text ++ gap ++ List.replicate signs '%' ++ trail))) = text ++ rest := by
  cases signs with
  | zero =>
    -- Without a sign all blanks behind the numeral go at once.
    have behind : ∀ c ∈ gap ++ trail, Text.isBlank c = true :=
      List.forall_mem_append.mpr ⟨gapped, trailing⟩
    have trimmed : Text.trimChars (lead ++ (text ++ (gap ++ trail))) = text :=
      Text.trimChars_append leading behind numeral.begins numeral.ends
    refine ⟨[], List.forall_mem_nil _, ?_⟩
    rw [List.replicate_zero, List.append_nil, List.append_assoc, trimmed]
    simpa using dropPercent_numeral numeral (List.forall_mem_nil _) 0
  | succ signs =>
    refine ⟨gap, gapped, ?_⟩
    rw [Text.trimChars_append leading trailing]
    · exact dropPercent_numeral numeral gapped (signs + 1)
    · rw [List.append_assoc, List.head?_append_of_ne_nil _ numeral.ne_nil]
      exact numeral.begins
    · rw [List.replicate_succ', ← List.append_assoc, List.getLast?_concat]
      rintro c ⟨⟩
      decide

/-- The signs and the blanks are taken off a numeral. -/
theorem numeral_of_written (signs : Nat) :
    Text.trimChars (dropPercent (Text.trimChars
      (lead ++ (text ++ gap ++ List.replicate signs '%' ++ trail)))) = text := by
  obtain ⟨rest, blank, dropped⟩ := exists_gap_of_written numeral leading gapped trailing signs
  rw [dropped]
  exact Text.trimChars_append (List.forall_mem_nil _) blank numeral.begins numeral.ends

end Numerals

theorem written_of_denotes {cs : List Char}
    (denotes : Denotes (Text.trimChars (dropPercent (Text.trimChars cs))) x) : Written x cs := by
  obtain ⟨lead, trail, whole, leading, trailing⟩ := Text.exists_margins cs
  obtain ⟨signs, signed⟩ := exists_signs (Text.trimChars cs)
  obtain ⟨lead', gap, inner, leading', gapped⟩ :=
    Text.exists_margins (dropPercent (Text.trimChars cs))
  have written := Written.intro (List.forall_mem_append.mpr ⟨leading, leading'⟩) denotes gapped signs
    trailing
  have same : cs = lead ++ lead' ++ (Text.trimChars (dropPercent (Text.trimChars cs)) ++ gap ++
      List.replicate signs '%' ++ trail) := by
    conv_lhs => rw [whole, signed, inner]
    simp only [List.append_assoc]
  rwa [same]

theorem statedNumber?_string {s : String} :
    statedNumber? (.string s) = some x ↔ Written x s.toList ∧ x.isFinite := by
  have read : statedNumber? (.string s) = some x ↔
      Denotes (Text.trimChars (dropPercent (Text.trimChars s.toList))) x ∧ x.isFinite := by
    rw [Number.exists_denotes_finite_iff]
    simp only [statedNumber?, Option.bind_eq_bind, Option.bind_eq_some_iff,
      Option.ite_none_right_eq_some, Option.some.injEq]
  rw [read]
  refine and_congr_left fun finite => ⟨written_of_denotes, fun written => ?_⟩
  generalize s.toList = cs at written
  obtain ⟨leading, denotes, gapped, signs, trailing⟩ := written
  obtain ⟨d, known, _, rfl⟩ := Number.exists_denotes_finite_iff.mp ⟨denotes, finite⟩
  have numeral := Number.Decimal.ofChars?_eq_some_iff.mp known
  rwa [numeral_of_written numeral leading gapped trailing signs]

variable {member : Option Json.Value}
  (bounded : ∀ n, member = some (.number n) → n.toFloat.isFinite)
include bounded

theorem confidence_of_states (states : States member c) :
    confidence member = .ok c ∧ InUnit c := by
  cases states with
  | absent | null => exact ⟨rfl, inUnit_default⟩
  | number amounts limits =>
    obtain rfl := amounts_iff.mp amounts
    have stated := (limits_iff (bounded _ rfl)).mp limits
    rw [← stated]
    exact ⟨rfl, inUnit_scaled (bounded _ rfl)⟩
  | text written finite limits =>
    have stated := (limits_iff finite).mp limits
    rw [← stated]
    refine ⟨?_, inUnit_scaled finite⟩
    simp only [confidence, statedNumber?_string.mpr ⟨written, finite⟩]

theorem states_of_confidence (read : confidence member = .ok c) : States member c := by
  unfold confidence at read
  split at read
  · cases read
    exact .absent
  · cases read
    exact .null
  · rename_i given _
    split at read
    · rename_i x stated
      cases read
      cases given with
      | number n =>
        cases stated
        exact .number (amounts_iff.mpr rfl) ((limits_iff (bounded _ rfl)).mpr rfl)
      | string s =>
        obtain ⟨written, finite⟩ := statedNumber?_string.mp stated
        exact .text written finite ((limits_iff finite).mpr rfl)
      | null | bool | array | object => cases stated
    · cases read

theorem numeric_iff : Numeric member ↔ ∃ c, States member c := by
  constructor
  · intro numeric
    cases numeric with
    | absent => exact ⟨_, .absent⟩
    | null => exact ⟨_, .null⟩
    | number n => exact ⟨_, .number (amounts_iff.mpr rfl) ((limits_iff (bounded n rfl)).mpr rfl)⟩
    | text written finite => exact ⟨_, .text written finite ((limits_iff finite).mpr rfl)⟩
  · rintro ⟨c, states⟩
    cases states with
    | absent => exact .absent
    | null => exact .null
    | number => exact .number _
    | text written finite => exact .text written finite

end Confidence

/-- The quotes in a member: the strings of an array in their order, or one text that is not blank,
or none. -/
inductive Quotes : Option Json.Value → List String → Prop where
  | array (items : List Json.Value) : Quotes (some (.array items)) (items.filterMap Json.Value.string?)
  | text {s : String} (ink : ∃ c ∈ s.toList, Text.isBlank c = false) : Quotes (some (.string s)) [s]
  | blank {s : String} (blank : ∀ c ∈ s.toList, Text.isBlank c = true) : Quotes (some (.string s)) []
  | absent : Quotes none []
  | other {value : Json.Value} (noArray : ∀ items, value ≠ .array items)
    (noText : ∀ s, value ≠ .string s) : Quotes (some value) []

theorem quotes_iff {member : Option Json.Value} {evidence : List String} :
    Quotes member evidence ↔ quotes member = evidence := by
  constructor
  · intro given
    cases given with
    | array => rfl
    | @text s ink =>
      have visible : Text.allBlank s = false := by simpa [Text.allBlank] using ink
      simp [quotes, visible]
    | @blank s blank =>
      have invisible : Text.allBlank s = true := List.all_eq_true.mpr blank
      simp [quotes, invisible]
    | absent => rfl
    | @other value noArray noText =>
      cases value with
      | array items => exact absurd rfl (noArray items)
      | string s => exact absurd rfl (noText s)
      | null | bool | number | object => rfl
  · rintro rfl
    match member with
    | none => exact .absent
    | some (.array items) => exact .array items
    | some (.string s) =>
      cases visible : Text.allBlank s with
      | true =>
        rw [quotes, if_pos visible]
        exact .blank (List.all_eq_true.mp visible)
      | false =>
        rw [quotes, if_neg (by simp [visible])]
        exact .text (by simpa [Text.allBlank] using visible)
    | some .null | some (.bool _) | some (.number _) | some (.object _) =>
      exact .other (by simp) (by simp)

theorem judgedStatus_eq_ok_iff {members : Json.Members} {status : Status} :
    judgedStatus members = .ok status ↔
      ∃ text, Json.Members.get? "status" members = some (.string text) ∧
        status.Spells text.toList ∧ status ≠ .unknown := by
  constructor
  · intro read
    have decided := ne_unknown_of_judgedStatus read
    unfold judgedStatus at read
    split at read
    · cases read
    · rename_i text found
      obtain ⟨value, known, same⟩ := Option.bind_eq_some_iff.mp found
      cases value with
      | string s =>
        cases same
        split at read
        · cases read
        · cases read
        · rename_i spelled
          cases read
          exact ⟨_, known, Status.ofChars?_eq_some_iff.mp spelled, decided⟩
      | null | bool | number | array | object => cases same
  · rintro ⟨text, found, spells, decided⟩
    have known : Status.ofString? text = some status := Status.ofChars?_eq_some_iff.mpr spells
    simp only [judgedStatus, found, Option.bind_some, Json.Value.string?, known]

/-- An object that can be read as a judgment. -/
structure Readable (members : Json.Members) : Prop where
  status : ∃ text status, Json.Members.get? "status" members = some (.string text) ∧
    Status.Spells status text.toList ∧ status ≠ .unknown
  confidence : Numeric (Json.Members.get? "confidence" members)

structure Judges (claim : Claim) (members : Json.Members) (j : Judgment Float) : Prop where
  claim : j.claim = claim
  status : ∃ text, Json.Members.get? "status" members = some (.string text) ∧
    j.status.Spells text.toList ∧ j.status ≠ .unknown
  confidence : States (Json.Members.get? "confidence" members) j.confidence
  inUnit : InUnit j.confidence
  evidence : Quotes (Json.Members.get? "evidence" members) j.evidence

theorem ofValue_object_eq_ok_iff {claim : Claim} {members : Json.Members} {j : Judgment Float}
    (bounded : ∀ n, Json.Members.get? "confidence" members = some (.number n) →
      n.toFloat.isFinite) :
    ofValue claim (.object members) = .ok j ↔ Judges claim members j := by
  rw [ofValue_eq_ok_iff]
  constructor
  · rintro ⟨_, status, c, ⟨⟩, judged, stated, rfl⟩
    have states := states_of_confidence bounded stated
    have inside := (confidence_of_states bounded states).2
    -- What a member states is within the limits that a judgment puts on it.
    have kept : unitInterval c = c := unitInterval_of_inUnit inside
    exact {
      claim := rfl
      status := judgedStatus_eq_ok_iff.mp judged
      confidence := by
        show States _ (unitInterval c)
        rwa [kept]
      inUnit := by
        show InUnit (unitInterval c)
        rwa [kept]
      evidence := quotes_iff.mpr rfl }
  · intro judges
    obtain ⟨stated, inside⟩ := confidence_of_states bounded judges.confidence
    refine ⟨members, j.status, j.confidence, rfl, judgedStatus_eq_ok_iff.mpr judges.status, stated,
      ?_⟩
    rw [quotes_iff.mp judges.evidence, ← judges.claim, Judgment.of,
      unitInterval_of_inUnit inside]

theorem readable_iff {claim : Claim} {members : Json.Members}
    (bounded : ∀ n, Json.Members.get? "confidence" members = some (.number n) →
      n.toFloat.isFinite) :
    Readable members ↔ ∃ j, Judges claim members j := by
  constructor
  · rintro ⟨⟨text, status, found, spells, decided⟩, numeric⟩
    obtain ⟨c, states⟩ := (numeric_iff bounded).mp numeric
    exact ⟨⟨claim, status, c, quotes (Json.Members.get? "evidence" members)⟩, rfl,
      ⟨text, found, spells, decided⟩, states, (confidence_of_states bounded states).2,
      quotes_iff.mpr rfl⟩
  · rintro ⟨j, judges⟩
    obtain ⟨text, found, spells, decided⟩ := judges.status
    exact ⟨⟨text, j.status, found, spells, decided⟩,
      (numeric_iff bounded).mpr ⟨j.confidence, judges.confidence⟩⟩

section Replies

variable (claim : Claim) (content : String)

theorem isFinite_of_reply {members : Json.Members} {key : String} {n : Json.Number}
    (read : Json.Value.read? (Reply.excerpt '{' '}' content.toList) = some (.object members))
    (found : Json.Members.get? key members = some (.number n)) : n.toFloat.isFinite :=
  Json.isFinite_of_read? read (.member (Json.Members.mem_of_get? found) .number)

theorem ofReply_eq_ok_iff (j : Judgment Float) :
    ofReply claim content = .ok j ↔ ∃ members,
      Json.Value.read? (Reply.excerpt '{' '}' content.toList) = some (.object members) ∧
        Judges claim members j := by
  constructor
  · intro said
    unfold ofReply at said
    split at said
    · rename_i value read
      obtain ⟨members, _, _, rfl, _⟩ := ofValue_eq_ok_iff.mp said
      exact ⟨members, read,
        (ofValue_object_eq_ok_iff fun n => isFinite_of_reply content read).mp said⟩
    · cases said
  · rintro ⟨members, read, judges⟩
    simp only [ofReply, read]
    exact (ofValue_object_eq_ok_iff fun n => isFinite_of_reply content read).mpr judges

/-- Exactly the readable replies are judgments: those with an object that spells a status and states
a finite number as its confidence, if it states any. What is read is the status, the confidence in
the unit interval and the quotes, for the claim in question. -/
theorem readable_replies_are_judgments :
    ((∃ j, ofReply claim content = .ok j) ↔ ∃ members,
      Json.Value.read? (Reply.excerpt '{' '}' content.toList) = some (.object members) ∧
        Readable members) ∧
    ∀ j, ofReply claim content = .ok j ↔ ∃ members,
      Json.Value.read? (Reply.excerpt '{' '}' content.toList) = some (.object members) ∧
        Judges claim members j := by
  refine ⟨?_, ofReply_eq_ok_iff claim content⟩
  constructor
  · rintro ⟨j, said⟩
    obtain ⟨members, read, judges⟩ := (ofReply_eq_ok_iff claim content j).mp said
    exact ⟨members, read, (readable_iff fun n => isFinite_of_reply content read).mpr ⟨j, judges⟩⟩
  · rintro ⟨members, read, readable⟩
    obtain ⟨j, judges⟩ : ∃ j, Judges claim members j :=
      (readable_iff fun n => isFinite_of_reply content read).mp readable
    exact ⟨j, (ofReply_eq_ok_iff claim content j).mpr ⟨members, read, judges⟩⟩

end Replies

end Verification

end ClaimAudit
