import ClaimAudit.Embedding
import Mathlib.Data.List.DropRight
import Mathlib.Data.Nat.Digits.Defs
import Mathlib.Data.Set.Function

/-! Vectors and the bytes they are stored as.

A number is stored as the four digits of its bit pattern to the base 256, the least significant
first. Any four bytes are the digits of one pattern, so vectors stand one to one for the strings of
whole groups of four bytes. Of other strings the bytes behind the last whole group are left out.
-/

set_option autoImplicit false

namespace ClaimAudit.Embedding

open ClaimAudit.Number (Single)

variable {blob : List UInt8}

def word (a b c d : UInt8) : UInt32 :=
  a.toUInt32 ||| b.toUInt32 <<< 8 ||| c.toUInt32 <<< 16 ||| d.toUInt32 <<< 24

/-- The number that the first four bytes of a group spell, if there are so many. -/
def ofGroup (group : List UInt8) : Option Single := do
  return ⟨word (← group[0]?) (← group[1]?) (← group[2]?) (← group[3]?)⟩

def ofGroups (blob : List UInt8) : Option Embedding :=
  ((batches 4 blob).filter (·.length = 4)).mapM ofGroup

section Words

theorem or_mul_two_pow {low n : Nat} (small : low < 2 ^ n) (high : Nat) :
    low ||| high * 2 ^ n = low + high * 2 ^ n := by
  rw [Nat.or_comm, Nat.mul_comm, ← Nat.two_pow_add_eq_or_of_lt small, Nat.add_comm]

theorem toNat_word (a b c d : UInt8) :
    (word a b c d).toNat = Nat.ofDigits 256 ([a, b, c, d].map UInt8.toNat) := by
  have first := a.toNat_lt
  have second := b.toNat_lt
  have third := c.toNat_lt
  have fourth := d.toNat_lt
  have two : a.toNat + b.toNat * 2 ^ 8 < 2 ^ 16 := by omega
  have three : a.toNat + b.toNat * 2 ^ 8 + c.toNat * 2 ^ 16 < 2 ^ 24 := by omega
  calc (word a b c d).toNat
      = ((a.toNat ||| b.toNat * 2 ^ 8) ||| c.toNat * 2 ^ 16) ||| d.toNat * 2 ^ 24 := by
        simp only [word, UInt32.toNat_or, UInt32.toNat_shiftLeft, UInt8.toNat_toUInt32,
          UInt32.toNat_ofNat, Nat.shiftLeft_eq, Nat.reduceMod, Nat.reducePow]
        congr <;> omega
    _ = a.toNat + b.toNat * 2 ^ 8 + c.toNat * 2 ^ 16 + d.toNat * 2 ^ 24 := by
        rw [or_mul_two_pow first, or_mul_two_pow two, or_mul_two_pow three]
    _ = Nat.ofDigits 256 ([a, b, c, d].map UInt8.toNat) := by
        simp only [List.map_cons, List.map_nil, Nat.ofDigits_cons, Nat.ofDigits_nil]
        omega

theorem ofDigits_singleBytes (x : Single) :
    Nat.ofDigits 256 ((singleBytes x).map UInt8.toNat) = x.bits.toNat := by
  have small := x.bits.toNat_lt
  simp only [singleBytes, List.map_cons, List.map_nil, UInt32.toNat_toUInt8, UInt32.toNat_shiftRight,
    UInt32.toNat_ofNat, Nat.reduceMod, Nat.shiftRight_eq_div_pow, Nat.reducePow, Nat.ofDigits_cons,
    Nat.ofDigits_nil]
  omega

theorem word_singleBytes (x : Single) :
    word x.bits.toUInt8 (x.bits >>> 8).toUInt8 (x.bits >>> 16).toUInt8 (x.bits >>> 24).toUInt8 =
      x.bits := by
  apply UInt32.toNat_inj.mp
  rw [toNat_word]
  exact ofDigits_singleBytes x

theorem singleBytes_word (a b c d : UInt8) : singleBytes ⟨word a b c d⟩ = [a, b, c, d] := by
  have injective : Function.Injective (List.map UInt8.toNat) :=
    List.map_injective_iff.mpr fun _ _ => UInt8.toNat_inj.mp
  have digits (bytes : List UInt8) : ∀ digit ∈ bytes.map UInt8.toNat, digit < 256 :=
    List.forall_mem_map.mpr fun byte _ => byte.toNat_lt
  -- Four digits are determined by the number that they denote.
  apply injective
  refine Nat.ofDigits_inj_of_len_eq (by decide : 1 < 256) rfl (digits _) (digits _) ?_
  rw [ofDigits_singleBytes, toNat_word]

end Words

theorem batches_group (a b c d : UInt8) (rest : List UInt8) :
    batches 4 (a :: b :: c :: d :: rest) = [a, b, c, d] :: batches 4 rest := by
  rw [batches, if_neg (by simp)]
  rfl

section Vectors

theorem length_bytes (v : Embedding) : (bytes v).length = 4 * v.length := by
  induction v with
  | nil => rfl
  | cons x rest ih =>
    change (bytes rest).length + 4 = 4 * (rest.length + 1)
    rw [ih, Nat.mul_succ]

theorem ofBytes_bytes (v : Embedding) : ofBytes (bytes v) = v := by
  induction v with
  | nil => rfl
  | cons x rest ih =>
    change ⟨word _ _ _ _⟩ :: ofBytes (bytes rest) = x :: rest
    rw [ih, word_singleBytes]

/-- Group by group the bytes of a vector are the digits of its numbers. -/
theorem ofDigits_groups (v : Embedding) :
    (batches 4 (bytes v)).map (fun group => Nat.ofDigits 256 (group.map UInt8.toNat)) =
      v.map (·.bits.toNat) := by
  induction v with
  | nil =>
    rw [bytes, List.flatMap_nil, batches, if_pos (.inl rfl)]
    rfl
  | cons x rest ih =>
    have groups : batches 4 (bytes (x :: rest)) = singleBytes x :: batches 4 (bytes rest) :=
      batches_group _ _ _ _ _
    rw [groups, List.map_cons, ih, ofDigits_singleBytes, List.map_cons]

end Vectors

section Blobs

theorem length_lt_of_no_group
    (short : ∀ a b c d rest, blob = a :: b :: c :: d :: rest → False) : blob.length < 4 := by
  match blob with
  | [] | [_] | [_, _] | [_, _, _] => simp
  | a :: b :: c :: d :: rest => exact (short a b c d rest rfl).elim

/-- No group lacks a byte. -/
theorem ofGroups_eq_some (blob : List UInt8) : ofGroups blob = some (ofBytes blob) := by
  fun_induction ofBytes blob with
  | case1 a b c d rest ih =>
    rw [ofGroups] at ih
    rw [ofGroups, batches_group, List.filter_cons_of_pos rfl, List.mapM_cons, ih]
    rfl
  | case2 blob short =>
    have few := length_lt_of_no_group short
    have noGroup : (batches 4 blob).filter (·.length = 4) = [] := by
      refine List.filter_eq_nil_iff.mpr fun group member => ?_
      have within := (List.sublist_flatten_of_mem member).length_le
      rw [flatten_batches (by decide)] at within
      simpa using (within.trans_lt few).ne
    rw [ofGroups, noGroup]
    rfl

theorem bytes_ofBytes (blob : List UInt8) :
    bytes (ofBytes blob) = blob.rdrop (blob.length % 4) := by
  fun_induction ofBytes blob with
  | case1 a b c d rest ih =>
    change singleBytes ⟨word a b c d⟩ ++ bytes (ofBytes rest) = _
    have whole : (a :: b :: c :: d :: rest).length - (a :: b :: c :: d :: rest).length % 4 =
        rest.length - rest.length % 4 + 4 := by
      simp only [List.length_cons]
      omega
    rw [singleBytes_word, ih, List.rdrop, List.rdrop, whole]
    rfl
  | case2 blob short =>
    have few := length_lt_of_no_group short
    rw [Nat.mod_eq_of_lt few, List.rdrop, Nat.sub_self]
    rfl

end Blobs

/-- Every vector is read back from its bytes, four for each number. Every string of bytes can be
read, and what was read has the bytes of the string but for those behind the last whole group. So
vectors stand one to one for the strings of whole groups. Group by group these are the digits of
the bit patterns, the least significant first. -/
theorem vector_bytes_exact :
    (∀ v : Embedding, ofBytes (bytes v) = v ∧ (bytes v).length = 4 * v.length) ∧
    (∀ blob : List UInt8, ofGroups blob = some (ofBytes blob) ∧
      bytes (ofBytes blob) = blob.rdrop (blob.length % 4)) ∧
    Set.BijOn bytes Set.univ {blob | 4 ∣ blob.length} ∧
    ∀ v : Embedding,
      (batches 4 (bytes v)).map (fun group => Nat.ofDigits 256 (group.map UInt8.toNat)) =
        v.map (·.bits.toNat) := by
  have inverse : Set.InvOn ofBytes bytes Set.univ {blob | 4 ∣ blob.length} := by
    refine ⟨fun v _ => ofBytes_bytes v, fun blob whole => ?_⟩
    rw [bytes_ofBytes, Nat.mod_eq_zero_of_dvd whole, List.rdrop_zero]
  refine ⟨fun v => ⟨ofBytes_bytes v, length_bytes v⟩,
    fun blob => ⟨ofGroups_eq_some blob, bytes_ofBytes blob⟩,
    inverse.bijOn (fun v _ => ?_) (Set.mapsTo_univ _ _), ofDigits_groups⟩
  rw [Set.mem_ofPred_eq, length_bytes]
  exact Nat.dvd_mul_right 4 v.length

/-- A pattern that stands for no number, and the negative zero. -/
example : bytes [⟨0x7fa00001⟩, ⟨0x80000000⟩] = [0x01, 0x00, 0xa0, 0x7f, 0x00, 0x00, 0x00, 0x80] := by
  decide

end ClaimAudit.Embedding
