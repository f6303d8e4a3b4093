import ClaimAudit.Proofs.ReadableJudgments

/-! Confidences that are stated as percentages.

A percent sign behind a number is dropped, and then the size of the number decides: above one it is
a percentage, and up to one it is the confidence itself. So the order of two percentages is kept
where one does not separate them.
-/

set_option autoImplicit false

namespace ClaimAudit

namespace Number

variable {d : Decimal} {text : List Char}

theorem Decimal.value?_toFloat (least : 0 ≤ d.value) (most : d.value ≤ 100) :
    value? d.toFloat = some (rounded d.value) := by
  have same : d.value = d.magnitude ∧ signed d.sign (rounded d.magnitude) = rounded d.magnitude := by
    unfold Decimal.value at least ⊢
    cases sign : d.sign with
    | positive => exact ⟨rfl, rfl⟩
    | negative =>
      rw [sign] at least
      have nonneg : 0 ≤ d.magnitude := mul_nonneg (Nat.cast_nonneg _) (ten_zpow_pos _).le
      have zero : d.magnitude = 0 := le_antisymm (neg_nonneg.mp least) nonneg
      rw [zero, rounded_zero]
      exact ⟨neg_zero, neg_zero⟩
  rw [same.1] at least most ⊢
  have hundred : rounded (100 : ℕ) = (100 : ℕ) := rounded_natCast (by decide)
  have small : rounded d.magnitude < 2 ^ (1024 : ℤ) := by
    calc rounded d.magnitude ≤ rounded (100 : ℕ) := rounded_mono least (by exact_mod_cast most)
      _ = (100 : ℕ) := hundred
      _ ≤ 2 ^ (7 : ℤ) := by norm_num
      _ < 2 ^ (1024 : ℤ) := zpow_lt_zpow_right₀ one_lt_two (by decide)
  rw [value?_of_finite (d.holds_toFloat.finite small), same.2]

end Number

namespace Verification

open Number (Decimal Numeral value? rounded)

/-- A reply with an object that spells a status and states a percentage as its confidence. Blanks
may stand around the numeral and behind the sign. -/
inductive StatesPercentage (content : String) (d : Decimal) : Prop where
  | intro {members : Json.Members} {spelling stated : String} {status : Status}
    {lead text gap trail : List Char}
    (read : Json.Value.read? (Reply.excerpt '{' '}' content.toList) = some (.object members))
    (named : Json.Members.get? "status" members = some (.string spelling))
    (spells : status.Spells spelling.toList) (decided : status ≠ .unknown)
    (found : Json.Members.get? "confidence" members = some (.string stated))
    (written : stated.toList = lead ++ (text ++ gap ++ ['%'] ++ trail)) (numeral : Numeral d text)
    (leading : ∀ c ∈ lead, Text.isBlank c = true) (gapped : ∀ c ∈ gap, Text.isBlank c = true)
    (trailing : ∀ c ∈ trail, Text.isBlank c = true)

/-- What a percentage counts for: its hundredth if it is above one, and else itself. Both are
rounded to numbers of the format. -/
def bySize (x : Rat) : Rat := if 1 < rounded x then rounded (rounded x / 100) else rounded x

variable {content : String} {d : Decimal}

theorem value?_scaled {x : Float} {v : Rat} (valued : value? x = some v) (least : 0 ≤ v)
    (most : v ≤ 100) :
    value? (scaled x) = some (if 1 < v then rounded (v / 100) else v) := by
  rcases scaled_cases valued with ⟨below, _⟩ | ⟨_, small, same⟩ | ⟨great, _, same⟩ | ⟨beyond, _⟩
  · exact absurd below least.not_gt
  · rw [same, valued, if_neg small.not_gt]
  · rw [same, if_pos great]
    exact value?_div_hundred valued (zero_lt_one.trans great) most
  · exact absurd beyond most.not_gt

theorem rounded_le_hundred {x : Rat} (least : 0 ≤ x) (most : x ≤ 100) : rounded x ≤ 100 := by
  have hundred : rounded (100 : Nat) = (100 : Nat) := Number.rounded_natCast (by decide)
  calc rounded x ≤ rounded (100 : Nat) := Number.rounded_mono least (by exact_mod_cast most)
    _ = 100 := by rw [hundred, Nat.cast_ofNat]

theorem confidence_of_percentage (claim : Claim) (states : StatesPercentage content d)
    (least : 0 ≤ d.value) (most : d.value ≤ 100) :
    ∃ j, ofReply claim content = .ok j ∧ value? j.confidence = some (bySize d.value) := by
  obtain @⟨members, spelling, stated, status, _, _, _, _, read, named, spells, decided, found, written,
    numeral, leading, gapped, trailing⟩ := states
  have valued := Decimal.value?_toFloat least most
  have finite : d.toFloat.isFinite := Number.isFinite_iff_value?.mpr (by rw [valued]; rfl)
  have small := value?_scaled valued (Number.rounded_nonneg _) (rounded_le_hundred least most)
  have signed : Written d.toFloat stated.toList :=
    written ▸ .intro leading (.numeral numeral d.holds_toFloat) gapped 1 trailing
  have limits := (limits_iff finite).mpr rfl
  have judges : Judges claim members
      ⟨claim, status, scaled d.toFloat, quotes (Json.Members.get? "evidence" members)⟩ :=
    ⟨rfl, ⟨spelling, named, spells, decided⟩, found ▸ .text signed finite limits,
      inUnit_scaled finite, quotes_iff.mpr rfl⟩
  exact ⟨_, (ofReply_eq_ok_iff claim content _).mpr ⟨members, read, judges⟩, small⟩

theorem bySize_mono {x y : Rat} (least : 0 ≤ x) (order : x ≤ y)
    (aside : 1 < rounded x ∨ rounded y ≤ 1) : bySize x ≤ bySize y := by
  have kept := Number.rounded_mono least order
  rcases aside with great | small
  · rw [bySize, bySize, if_pos great, if_pos (great.trans_le kept)]
    exact Number.rounded_mono (div_nonneg (Number.rounded_nonneg x) (by norm_num))
      ((div_le_div_iff_of_pos_right (by norm_num)).mpr kept)
  · rw [bySize, bySize, if_neg (kept.trans small).not_gt, if_neg small.not_gt]
    exact kept

/-- Percentages up to a hundred are read, and their size decides as what. The greater of two has no
smaller confidence if one does not separate them. -/
theorem percentages_read_by_size {content' : String} {d' : Decimal} (claim claim' : Claim)
    (first : StatesPercentage content d) (second : StatesPercentage content' d')
    (least : 0 ≤ d.value) (order : d.value ≤ d'.value) (most : d'.value ≤ 100) :
    ∃ j j', ofReply claim content = .ok j ∧ ofReply claim' content' = .ok j' ∧
      value? j.confidence = some (bySize d.value) ∧
      value? j'.confidence = some (bySize d'.value) ∧
      (1 < rounded d.value ∨ rounded d'.value ≤ 1 → j.confidence ≤ j'.confidence) := by
  obtain ⟨j, said, valued⟩ := confidence_of_percentage claim first least (order.trans most)
  obtain ⟨j', said', valued'⟩ := confidence_of_percentage claim' second (least.trans order) most
  exact ⟨j, j', said, said', valued, valued', fun aside =>
    (Number.le_iff_value valued valued').mpr (bySize_mono least order aside)⟩

def supporting (stated : String) : String :=
  "\x7b\"status\":\"SUPPORTED\",\"confidence\":\"" ++ stated ++ "\"\x7d"

theorem percentages_read_by_size_two_and_quarter :
    let two : Decimal := ⟨false, 2, 0⟩
    let quarter : Decimal := ⟨false, 25, 0⟩
    StatesPercentage (supporting "2%") two ∧ StatesPercentage (supporting " 25 % ") quarter ∧
      0 ≤ two.value ∧ two.value ≤ quarter.value ∧ quarter.value ≤ 100 ∧ 1 < rounded two.value ∧
      ∃ j j', ofReply ⟨"first"⟩ (supporting "2%") = .ok j ∧
        ofReply ⟨"second"⟩ (supporting " 25 % ") = .ok j' ∧ j.confidence ≤ j'.confidence := by
  intro two quarter
  have value (n : Nat) : Decimal.value ⟨false, n, 0⟩ = n := by
    simp [Decimal.value, Decimal.sign, Decimal.magnitude, Number.signed]
  have spells : Status.supported.Spells "SUPPORTED".toList :=
    Status.ofChars?_eq_some_iff.mp (by decide +kernel)
  have blank : ∀ c ∈ [' '], Text.isBlank c = true := List.forall_mem_singleton.mpr (by decide)
  have none : ∀ c ∈ ([] : List Char), Text.isBlank c = true := List.forall_mem_nil _
  have first : StatesPercentage (supporting "2%") two := by
    have read : Json.Value.read? (Reply.excerpt '{' '}' (supporting "2%").toList) =
        some (.object [("confidence", .string "2%"), ("status", .string "SUPPORTED")]) := by
      have reply : supporting "2%" =
          "\x7b\"status\":\"SUPPORTED\",\"confidence\":\"2%\"\x7d" := by decide +kernel
      rw [reply]
      cbv
    have numeral : Numeral two ['2'] := Decimal.ofChars?_eq_some_iff.mp (by decide +kernel)
    exact .intro read rfl spells (by decide) rfl (by decide +kernel) numeral none none none
  have second : StatesPercentage (supporting " 25 % ") quarter := by
    have read : Json.Value.read? (Reply.excerpt '{' '}' (supporting " 25 % ").toList) =
        some (.object [("confidence", .string " 25 % "), ("status", .string "SUPPORTED")]) := by
      have reply : supporting " 25 % " =
          "\x7b\"status\":\"SUPPORTED\",\"confidence\":\" 25 % \"\x7d" := by decide +kernel
      rw [reply]
      cbv
    have numeral : Numeral quarter ['2', '5'] :=
      Decimal.ofChars?_eq_some_iff.mp (by decide +kernel)
    exact .intro read rfl spells (by decide) rfl (by decide +kernel) numeral blank blank blank
  have least : 0 ≤ two.value := by rw [value]; norm_num
  have order : two.value ≤ quarter.value := by rw [value, value]; norm_num
  have most : quarter.value ≤ 100 := by rw [value]; norm_num
  have great : 1 < rounded two.value := by
    rw [value, Number.rounded_natCast (by decide)]
    norm_num
  obtain ⟨j, j', said, said', _, _, kept⟩ :=
    percentages_read_by_size ⟨"first"⟩ ⟨"second"⟩ first second least order most
  exact ⟨first, second, least, order, most, great, j, j', said, said', kept (.inl great)⟩

/-- A percentage below one is taken for a share, and so a greater percentage counts for less. -/
theorem small_percentage_counts_for_more :
    (ofReply ⟨"Water boils at 100C"⟩ (supporting "0.5%")).toOption.map (·.confidence) =
        some 0.5 ∧
      (ofReply ⟨"Water boils at 100C"⟩ (supporting "2%")).toOption.map (·.confidence) =
        some 0.02 ∧
      (0.02 : Float) < 0.5 := by
  decide +kernel

end Verification

end ClaimAudit
