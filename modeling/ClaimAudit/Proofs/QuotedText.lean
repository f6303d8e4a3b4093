import ClaimAudit.Proofs.TextPieces
import ClaimAudit.Text.Quoted
import Mathlib.Data.List.Forall2

/-! What a quoted text says.

Between the quotes each character stands as itself, as a letter behind a backslash, or as the digits
of its code point. No way to show a character begins like another, so the text is read back from
what is shown.
-/

set_option autoImplicit false

namespace ClaimAudit.Text

/-- The ways in which characters are shown. -/
inductive ShownAs : Char → List Char → Prop where
  | itself {c : Char} (plain : isPlain c = true) (unquoted : c ≠ '"') (unescaped : c ≠ '\\') :
    ShownAs c [c]
  | quote : ShownAs '"' ['\\', '"']
  | backslash : ShownAs '\\' ['\\', '\\']
  | null : ShownAs '\x00' ['\\', '0']
  | tab : ShownAs '\t' ['\\', 't']
  | carriageReturn : ShownAs '\r' ['\\', 'r']
  | newline : ShownAs '\n' ['\\', 'n']
  | code {c : Char} (hidden : isPlain c = false) (nameless : c ∉ ['\x00', '\t', '\r', '\n']) :
    ShownAs c ('\\' :: 'u' :: '{' :: (Nat.toDigits 16 c.toNat ++ ['}']))

/-- A text between double quotes, each character in one of the ways. -/
inductive QuotedAs (raw : String) : String → Prop where
  | intro {pieces : List (List Char)} (shown : List.Forall₂ ShownAs raw.toList pieces) :
    QuotedAs raw (String.ofList ('"' :: pieces.flatten ++ ['"']))

variable {c : Char} {piece : List Char} {cs ds : List Char} {pieces others : List (List Char)}
  {raw raw' shown : String} {n : Nat}

theorem shownAs_iff : ShownAs c piece ↔ quotedChar c = piece := by
  constructor
  · intro shown
    cases shown with
    | itself plain unquoted unescaped =>
      unfold quotedChar
      split
      case h_7 => rw [if_pos plain]
      all_goals first | exact absurd rfl unquoted | exact absurd rfl unescaped | cases plain
    | code hidden nameless =>
      unfold quotedChar
      split
      case h_7 =>
        rw [if_neg (by simp [hidden])]
        rfl
      all_goals first | exact absurd (by decide) nameless | cases hidden
    | quote | backslash | null | tab | carriageReturn | newline => rfl
  · rintro rfl
    unfold quotedChar
    split
    case h_7 null tab carriageReturn newline backslash quote =>
      split
      case isTrue plain => exact .itself plain quote backslash
      case isFalse hidden =>
        exact .code (by simpa using hidden) (by simpa using ⟨null, tab, carriageReturn, newline⟩)
    · exact .null
    · exact .tab
    · exact .carriageReturn
    · exact .newline
    · exact .backslash
    · exact .quote

theorem forall₂_shownAs_iff : List.Forall₂ ShownAs cs pieces ↔ cs.map quotedChar = pieces := by
  have same : ShownAs = fun c piece => quotedChar c = piece := by
    funext c piece
    exact propext shownAs_iff
  rw [same, ← List.forall₂_map_left_iff (R := Eq), List.forall₂_eq_eq_eq]

theorem quotedAs_iff : QuotedAs raw shown ↔ quoted raw = shown := by
  constructor
  · rintro ⟨each⟩
    obtain rfl := forall₂_shownAs_iff.mp each
    rw [quoted, quotedChars, List.flatMap_def]
  · rintro rfl
    rw [quoted, quotedChars, List.flatMap_def]
    exact .intro (forall₂_shownAs_iff.mpr rfl)

section Reading

def hexValue (digits : List Char) : Nat :=
  digits.foldl (fun n c => n * 16 + (hexDigit? c).getD 0) 0

theorem hexValue_toDigits (n : Nat) : hexValue (Nat.toDigits 16 n) = n := by
  induction n using Nat.strongRecOn with
  | ind n ih =>
    have last := hexDigit?_digitChar (Nat.mod_lt n (show 0 < 16 by decide))
    rcases Nat.lt_or_ge n 16 with small | great
    · rw [Nat.toDigits_of_lt_base small, hexValue, List.foldl_cons, List.foldl_nil,
        hexDigit?_digitChar small]
      simp
    · have front := ih (n / 16) (Nat.div_lt_self (by omega) (by decide))
      rw [hexValue] at front
      rw [Nat.toDigits_of_base_le (by decide) great, hexValue, List.foldl_append, front,
        List.foldl_cons, List.foldl_nil, last, Option.getD_some]
      omega

theorem exists_digit_of_mem_toDigits (n : Nat) :
    ∀ c ∈ Nat.toDigits 16 n, ∃ d < 16, c = d.digitChar := by
  induction n using Nat.strongRecOn with
  | ind n ih =>
    rcases Nat.lt_or_ge n 16 with small | great
    · rw [Nat.toDigits_of_lt_base small, List.forall_mem_singleton]
      exact ⟨n, small, rfl⟩
    · rw [Nat.toDigits_of_base_le (by decide) great, List.forall_mem_append,
        List.forall_mem_singleton]
      exact ⟨ih (n / 16) (Nat.div_lt_self (by omega) (by decide)), n % 16,
        Nat.mod_lt n (by decide), rfl⟩

def first? : List Char → Option (Char × List Char)
  | [] => none
  | '\\' :: 'u' :: '{' :: rest =>
    (splitFirst ['}'] rest).map fun (digits, rest) => (Char.ofNat (hexValue digits), rest)
  | '\\' :: '0' :: rest => some ('\x00', rest)
  | '\\' :: 't' :: rest => some ('\t', rest)
  | '\\' :: 'r' :: rest => some ('\r', rest)
  | '\\' :: 'n' :: rest => some ('\n', rest)
  | '\\' :: c :: rest => some (c, rest)
  | c :: rest => some (c, rest)

theorem first?_append (shown : ShownAs c piece) (rest : List Char) :
    first? (piece ++ rest) = some (c, rest) := by
  cases shown with
  | itself plain unquoted unescaped => simp [first?, unescaped]
  | code =>
    have absent : '}' ∉ Nat.toDigits 16 c.toNat := by
      intro member
      obtain ⟨d, small, same⟩ := exists_digit_of_mem_toDigits _ _ member
      have shownDigit := hexDigit?_digitChar small
      rw [← same] at shownDigit
      cases shownDigit
    have split : splitFirst ['}'] (Nat.toDigits 16 c.toNat ++ '}' :: rest) =
        some (Nat.toDigits 16 c.toNat, rest) := splitFirst_mark rest absent
    simp only [List.cons_append, List.append_assoc, List.nil_append, first?, split, Option.map_some,
      hexValue_toDigits, Char.ofNat_toNat]
  | quote | backslash | null | tab | carriageReturn | newline => rfl

theorem eq_of_flatten_eq (first : List.Forall₂ ShownAs cs pieces)
    (second : List.Forall₂ ShownAs ds others) (same : pieces.flatten = others.flatten) :
    cs = ds := by
  induction first generalizing ds others with
  | nil =>
    cases second with
    | nil => rfl
    | @cons d _ _ others shown _ =>
      have read := first?_append shown others.flatten
      rw [← List.flatten_cons, ← same] at read
      cases read
  | @cons c _ _ pieces shown _ ih =>
    have read := first?_append shown pieces.flatten
    rw [← List.flatten_cons, same] at read
    cases second with
    | nil => cases read
    | @cons d _ _ others shown' later =>
      rw [List.flatten_cons, first?_append shown'] at read
      obtain ⟨rfl, rest⟩ := Prod.mk.inj (Option.some.inj read)
      rw [ih later rest.symm]

/-- A quoted text is read back. -/
theorem QuotedAs.unique (first : QuotedAs raw shown) (second : QuotedAs raw' shown) :
    raw = raw' := by
  obtain ⟨each⟩ := first
  generalize same : String.ofList _ = shown at second
  obtain ⟨each'⟩ := second
  have whole := String.ofList_injective same
  rw [List.append_cancel_right_eq, List.cons.injEq] at whole
  exact String.toList_injective (eq_of_flatten_eq each each' whole.2)

end Reading

end ClaimAudit.Text
