import ClaimAudit.Text.Blank
import ClaimAudit.Text.Search
import Mathlib.Data.List.DropRight
import Mathlib.Data.List.Infix

/-! Pieces of a text: what a search finds, and what trimming leaves.

The place found is the first one. An occurrence cannot reach across a character that the fragment
does not have, nor begin or end among characters that are not its first or its last. So a text put
together from pieces can be searched piece by piece.
-/

set_option autoImplicit false

namespace ClaimAudit.Text

variable {fragment text before after rest : List Char} {mark : Char}

theorem dropPrefix_eq_none_iff : dropPrefix fragment text = none ↔ ¬ fragment <+: text := by
  rw [Option.eq_none_iff_forall_ne_some]
  constructor
  · rintro refused ⟨rest, rfl⟩
    exact refused rest (dropPrefix_eq_some.mpr rfl)
  · intro absent rest found
    exact absent ⟨rest, (dropPrefix_eq_some.mp found).symm⟩

theorem splitFirst_eq_none_iff : splitFirst fragment text = none ↔ ¬ fragment <:+: text := by
  induction text with
  | nil => rw [splitFirst, Option.map_eq_none_iff, dropPrefix_eq_none_iff, List.prefix_nil,
      List.infix_nil]
  | cons c text ih =>
    rw [List.infix_cons_iff, not_or, ← ih, ← dropPrefix_eq_none_iff, splitFirst]
    cases dropPrefix fragment (c :: text) <;> simp

/-- A first occurrence is found. It is the first if none is complete before its last character. -/
theorem splitFirst_append (rest : List Char)
    (absent : ¬ fragment <:+: before ++ fragment.dropLast) :
    splitFirst fragment (before ++ fragment ++ rest) = some (before, rest) := by
  induction before with
  | nil =>
    have here : dropPrefix fragment (fragment ++ rest) = some rest := dropPrefix_eq_some.mpr rfl
    cases known : fragment ++ rest with
    | nil => simp_all [splitFirst]
    | cons c text => simp_all [splitFirst]
  | cons c before ih =>
    have later := ih fun early => absent (List.infix_cons early)
    have notHere : dropPrefix fragment (c :: (before ++ fragment ++ rest)) = none := by
      rw [dropPrefix_eq_none_iff]
      intro begins
      -- The occurrence would be complete before the last character of the next one.
      have front : c :: before ++ fragment.dropLast <+: c :: (before ++ fragment ++ rest) := by
        rw [List.append_assoc, ← List.cons_append, List.prefix_append_right_inj]
        exact (List.dropLast_prefix fragment).trans (List.prefix_append _ _)
      refine absent (List.prefix_of_prefix_length_le begins front ?_).isInfix
      rw [List.length_append, List.length_cons, List.length_dropLast]
      omega
    rw [List.cons_append, List.cons_append, splitFirst, notHere, later]
    rfl

theorem infix_of_splitFirst (found : splitFirst fragment text = some (before, rest)) :
    before <:+: text ∧ rest <:+: text := by
  rw [eq_append_of_splitFirst found]
  exact ⟨⟨[], fragment ++ rest, by simp⟩, ⟨before ++ fragment, [], by simp⟩⟩

theorem splitFirst_mark (rest : List Char) (absent : mark ∉ before) :
    splitFirst [mark] (before ++ mark :: rest) = some (before, rest) := by
  have nowhere : ¬ [mark] <:+: before ++ [mark].dropLast := by
    rwa [List.dropLast_singleton, List.append_nil, List.singleton_infix_iff]
  simpa using splitFirst_append rest nowhere

theorem splitLast_absent (absent : mark ∉ rest) : splitLast mark rest = none := by
  induction rest with
  | nil => rfl
  | cons c rest ih =>
    have differ : c ≠ mark := fun same => absent (same ▸ List.mem_cons_self)
    have inner := ih fun member => absent (List.mem_cons_of_mem c member)
    simp [splitLast, differ, inner]

theorem splitLast_mark (before : List Char) (absent : mark ∉ rest) :
    splitLast mark (before ++ mark :: rest) = some (before, rest) := by
  induction before with
  | nil => simp [splitLast, splitLast_absent absent]
  | cons c before ih => simp [splitLast, ih]

section Pieces

theorem prefix_append_mark_iff (foreign : mark ∉ fragment) :
    fragment <+: before ++ mark :: after ↔ fragment <+: before := by
  induction before generalizing fragment with
  | nil =>
    rw [List.nil_append, List.prefix_nil]
    cases fragment with
    | nil => simp
    | cons f fragment =>
      have differ : f ≠ mark := fun same => foreign (same ▸ List.mem_cons_self)
      simp [differ]
  | cons c before ih =>
    cases fragment with
    | nil => simp
    | cons f fragment =>
      rw [List.cons_append, List.cons_prefix_cons, List.cons_prefix_cons,
        ih fun member => foreign (List.mem_cons_of_mem f member)]

theorem infix_append_mark_iff (foreign : mark ∉ fragment) :
    fragment <:+: before ++ mark :: after ↔ fragment <:+: before ∨ fragment <:+: after := by
  induction before with
  | nil =>
    have atMark : fragment <+: [] ++ mark :: after ↔ fragment <+: [] :=
      prefix_append_mark_iff foreign
    rw [List.nil_append, List.prefix_nil] at atMark
    rw [List.nil_append, List.infix_cons_iff, List.infix_nil, atMark]
  | cons c before ih =>
    have atHead : fragment <+: c :: before ++ mark :: after ↔ fragment <+: c :: before :=
      prefix_append_mark_iff foreign
    rw [List.cons_append] at atHead ⊢
    rw [List.infix_cons_iff, List.infix_cons_iff, atHead, ih, or_assoc]

theorem infix_margin_append_iff {first : Char} {margin : List Char}
    (starts : fragment.head? = some first) (absent : first ∉ margin) :
    fragment <:+: margin ++ text ↔ fragment <:+: text := by
  induction margin with
  | nil => rw [List.nil_append]
  | cons c margin ih =>
    have notHere : ¬ fragment <+: c :: (margin ++ text) := by
      intro begins
      cases fragment with
      | nil => cases starts
      | cons f fragment =>
        cases starts
        exact absent ((List.cons_prefix_cons.mp begins).1 ▸ List.mem_cons_self)
    rw [List.cons_append, List.infix_cons_iff, or_iff_right notHere]
    exact ih fun member => absent (List.mem_cons_of_mem c member)

theorem infix_append_margin_iff {last : Char} {margin : List Char}
    (ends : fragment.getLast? = some last) (absent : last ∉ margin) :
    fragment <:+: text ++ margin ↔ fragment <:+: text := by
  have reversed : fragment.reverse <:+: margin.reverse ++ text.reverse ↔
      fragment.reverse <:+: text.reverse :=
    infix_margin_append_iff (by rwa [List.head?_reverse]) (by rwa [List.mem_reverse])
  rwa [← List.reverse_append, List.reverse_infix, List.reverse_infix] at reversed

end Pieces

section Digits

theorem foldl_digits_eq (digits : List Char) :
    digits.foldl (fun n c => n * 10 + (c.toNat - '0'.toNat)) 0 = Nat.ofDigitChars 10 digits 0 := by
  simp only [Nat.ofDigitChars_eq_foldl, Nat.mul_comm]

theorem isBlank_of_isDigit {c : Char} (digit : c.isDigit = true) : isBlank c = false := by
  have all : ∀ n < 58, 48 ≤ n → isBlank (Char.ofNat n) = false := by decide
  obtain ⟨least, most⟩ := Char.isDigit_iff_toNat.mp digit
  have known := all c.toNat (Nat.lt_succ_of_le most) least
  rwa [Char.ofNat_toNat] at known

end Digits

section Trimming

theorem trimEnd_eq (cs : List Char) : trimEnd cs = cs.rdropWhile isBlank := rfl

theorem exists_trail (cs : List Char) : ∃ trail, trimEnd cs ++ trail = cs ∧
    (∀ c ∈ trail, isBlank c = true) ∧ ∀ c ∈ (trimEnd cs).getLast?, isBlank c = false := by
  rw [trimEnd_eq]
  refine ⟨cs.rtakeWhile isBlank, List.rdropWhile_append_rtakeWhile,
    fun c member => List.mem_rtakeWhile_imp member, fun c last => ?_⟩
  obtain ⟨some, rfl⟩ := List.mem_getLast?_eq_getLast last
  simpa using List.rdropWhile_last_not isBlank cs some

theorem exists_margins (cs : List Char) : ∃ lead trail, cs = lead ++ trimChars cs ++ trail ∧
    (∀ c ∈ lead, isBlank c = true) ∧ ∀ c ∈ trail, isBlank c = true := by
  obtain ⟨trail, whole, blank, _⟩ := exists_trail (trimStart cs)
  refine ⟨cs.takeWhile isBlank, trail, ?_, fun c member => List.mem_takeWhile_imp member, blank⟩
  rw [List.append_assoc, trimChars, whole, trimStart, List.takeWhile_append_dropWhile]

theorem trimChars_infix_self (cs : List Char) : trimChars cs <:+: cs :=
  let ⟨lead, trail, same, _⟩ := exists_margins cs
  ⟨lead, trail, same.symm⟩

theorem trimEnd_cons {c : Char} (cs : List Char) (ink : isBlank c = false) :
    ∃ rest, trimEnd (c :: cs) = c :: rest := by
  have front : trimEnd (c :: cs) <+: c :: cs := List.rdropWhile_prefix _ _
  cases left : trimEnd (c :: cs) with
  | nil =>
    have blank := List.rdropWhile_eq_nil_iff.mp left c List.mem_cons_self
    rw [ink] at blank
    cases blank
  | cons d rest =>
    rw [left] at front
    exact ⟨rest, by rw [(List.cons_prefix_cons.mp front).1]⟩

theorem trimStart_trimEnd_trimStart (cs : List Char) :
    trimStart (trimEnd (trimStart cs)) = trimEnd (trimStart cs) := by
  cases kept : trimStart cs with
  | nil => rfl
  | cons c rest =>
    have ink : isBlank c = false := by
      have first := List.head?_dropWhile_not isBlank cs
      rw [show cs.dropWhile isBlank = c :: rest from kept] at first
      simpa using first
    obtain ⟨others, same⟩ := trimEnd_cons rest ink
    rw [same, trimStart_eq_self_of_head ink]

theorem trimChars_trimChars (cs : List Char) : trimChars (trimChars cs) = trimChars cs := by
  rw [trimChars, trimChars, trimStart_trimEnd_trimStart]
  exact List.rdropWhile_idempotent _ _

theorem trim_trim (s : String) : trim (trim s) = trim s := by
  rw [trim, trim, String.toList_ofList, trimChars_trimChars]

theorem rdropWhile_append {p : Char → Bool} {inner trail : List Char}
    (trailing : ∀ c ∈ trail, p c = true) (ends : ∀ c ∈ inner.getLast?, p c = false) :
    (inner ++ trail).rdropWhile p = inner := by
  have tail : ∀ c ∈ trail.reverse, p c = true := by simpa using trailing
  rw [List.rdropWhile, List.reverse_append, List.dropWhile_append_of_pos tail]
  rcases List.eq_nil_or_concat inner with rfl | ⟨front, last, rfl⟩
  · rfl
  · simp [ends last (by simp)]

theorem trimEnd_append {inner trail : List Char} (trailing : ∀ c ∈ trail, isBlank c = true)
    (ends : ∀ c ∈ inner.getLast?, isBlank c = false) : trimEnd (inner ++ trail) = inner :=
  rdropWhile_append trailing ends

theorem trimChars_append {lead inner trail : List Char}
    (leading : ∀ c ∈ lead, isBlank c = true) (trailing : ∀ c ∈ trail, isBlank c = true)
    (begins : ∀ c ∈ inner.head?, isBlank c = false)
    (ends : ∀ c ∈ inner.getLast?, isBlank c = false) :
    trimChars (lead ++ (inner ++ trail)) = inner := by
  rw [trimChars, trimStart, List.dropWhile_append_of_pos leading, ← trimStart]
  cases inner with
  | nil =>
    have nothing : trimStart trail = [] := List.dropWhile_eq_nil_iff.mpr trailing
    rw [List.nil_append, nothing]
    rfl
  | cons first inner =>
    rw [List.cons_append, trimStart_eq_self_of_head (begins first rfl), ← List.cons_append]
    exact trimEnd_append trailing ends

theorem trimChars_margins {lead inner trail : List Char} {first last : Char}
    (leading : ∀ c ∈ lead, isBlank c = true) (trailing : ∀ c ∈ trail, isBlank c = true)
    (begins : isBlank first = false) (ends : isBlank last = false) :
    trimChars (lead ++ first :: (inner ++ last :: trail)) = first :: inner ++ [last] := by
  have trimmed : trimChars (lead ++ ((first :: inner ++ [last]) ++ trail)) =
      first :: inner ++ [last] :=
    trimChars_append leading trailing (by simpa using begins)
      (by simpa [List.getLast?_cons] using ends)
  simpa using trimmed

end Trimming

end ClaimAudit.Text
