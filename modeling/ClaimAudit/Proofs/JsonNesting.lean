import ClaimAudit.Proofs.JsonText
import ClaimAudit.Proofs.TextPieces
import Mathlib

/-! How JSON texts nest.

A syntax tree has a value if it nests within the limit and its literals stand for something. A text
of one value closes as many containers as it opens, and while it is read one of them stays open. So
what follows a line break inside of a container is no text of a value by itself.
-/

set_option autoImplicit false

namespace ClaimAudit.Json

mutual

def Tree.depth : Tree → Nat
  | .null | .bool _ | .number _ | .string _ => 0
  | .array items => treesDepth items + 1
  | .object members => memberTreesDepth members + 1

def treesDepth : List Tree → Nat
  | [] => 0
  | item :: rest => max item.depth (treesDepth rest)

def memberTreesDepth : List (Option String × Tree) → Nat
  | [] => 0
  | (_, item) :: rest => max item.depth (memberTreesDepth rest)

end

mutual

/-- Every literal stands for something: no number is too great and no surrogate is alone. -/
def Tree.Denotes : Tree → Prop
  | .null | .bool _ => True
  | .number literal => literal.isSome = true
  | .string literal => literal.isSome = true
  | .array items => TreesDenote items
  | .object members => MemberTreesDenote members

def TreesDenote : List Tree → Prop
  | [] => True
  | item :: rest => item.Denotes ∧ TreesDenote rest

def MemberTreesDenote : List (Option String × Tree) → Prop
  | [] => True
  | (key, item) :: rest => key.isSome = true ∧ item.Denotes ∧ MemberTreesDenote rest

end

section Limits

mutual

theorem Tree.isSome_value?_iff : (tree : Tree) → (levels : Nat) →
    ((tree.value? levels).isSome = true ↔ tree.depth ≤ levels ∧ tree.Denotes)
  | .null, _ | .bool _, _ | .number _, _ | .string _, _ => by
    simp [Tree.value?, Tree.depth, Tree.Denotes]
  | .array _, 0 | .object _, 0 => by simp [Tree.value?, Tree.depth]
  | .array items, levels + 1 => by
    have inside := isSome_values?_iff items levels
    simpa [Tree.value?, Tree.depth, Tree.Denotes] using inside
  | .object members, levels + 1 => by
    have inside := isSome_memberValues?_iff members levels
    simpa [Tree.value?, Tree.depth, Tree.Denotes] using inside

theorem isSome_values?_iff : (items : List Tree) → (levels : Nat) →
    ((values? levels items).isSome = true ↔ treesDepth items ≤ levels ∧ TreesDenote items)
  | [], _ => by simp [values?, treesDepth, TreesDenote]
  | item :: rest, levels => by
    have first := item.isSome_value?_iff levels
    have others := isSome_values?_iff rest levels
    rw [treesDepth, TreesDenote, Nat.max_le, and_and_and_comm, ← first, ← others, values?]
    cases item.value? levels <;> cases values? levels rest <;> simp

theorem isSome_memberValues?_iff : (members : List (Option String × Tree)) → (levels : Nat) →
    ((memberValues? levels members).isSome = true ↔
      memberTreesDepth members ≤ levels ∧ MemberTreesDenote members)
  | [], _ => by simp [memberValues?, memberTreesDepth, MemberTreesDenote]
  | (key, item) :: rest, levels => by
    have first := item.isSome_value?_iff levels
    have others := isSome_memberValues?_iff rest levels
    rw [memberTreesDepth, MemberTreesDenote, Nat.max_le, and_left_comm, and_and_and_comm, ← first,
      ← others, memberValues?]
    cases key <;> cases item.value? levels <;> cases memberValues? levels rest <;> simp

end

variable {tree : Tree} {levels : Nat}

theorem Tree.exists_array_iff (holds : tree.container? = some .items) :
    (∃ items, tree.value? levels = some (.array items)) ↔ (tree.value? levels).isSome = true := by
  cases tree with
  | array items =>
    cases levels with
    | zero => simp [Tree.value?]
    | succ levels => cases known : values? levels items <;> simp [Tree.value?, known]
  | null | bool | number | string | object => cases holds

theorem Tree.exists_object_iff (holds : tree.container? = some .members) :
    (∃ members, tree.value? levels = some (.object members)) ↔
      (tree.value? levels).isSome = true := by
  cases tree with
  | object members =>
    cases levels with
    | zero => simp [Tree.value?]
    | succ levels => cases known : memberValues? levels members <;> simp [Tree.value?, known]
  | null | bool | number | string | array => cases holds

end Limits

section Balance

def Token.turn : Token → Int
  | .openArray | .openObject => 1
  | .closeArray | .closeObject => -1
  | .comma | .colon | .null | .bool _ | .number _ | .string _ => 0

namespace State

variable {state next : State} {token : Token} {tokens first rest : List Token}

def depth : State → Nat
  | .value stack | .after _ stack => stack.length
  | .firstItem stack | .firstKey stack | .key _ stack | .colon _ _ stack => stack.length + 1

theorem depth_begin {stack : List Frame} (begun : begin stack token = some next) :
    (next.depth : Int) = stack.length + token.turn := by
  cases token <;> cases begun <;> simp [depth, Token.turn]

theorem depth_step (step : state.step token = some next) :
    (next.depth : Int) = state.depth + token.turn := by
  unfold State.step at step
  split at step
  case h_1 => exact depth_begin step
  case h_3 =>
    rw [depth_begin step]
    rfl
  all_goals cases step <;> simp only [depth, Token.turn, List.length_cons] <;> omega

theorem depth_run (ran : state.run tokens = some next) :
    (next.depth : Int) = state.depth + (tokens.map Token.turn).sum := by
  induction tokens generalizing state with
  | nil =>
    cases ran
    simp
  | cons token tokens ih =>
    obtain ⟨between, stepped, rest⟩ := Option.bind_eq_some_iff.mp ran
    rw [ih rest, depth_step stepped, List.map_cons, List.sum_cons]
    omega

theorem step_ne_start : state.step token ≠ some (.value []) := by
  intro step
  unfold State.step at step
  split at step
  case h_1 | h_3 => cases token <;> cases step
  all_goals cases step

theorem run_ne_start (begun : tokens ≠ []) : state.run tokens ≠ some (.value []) := by
  induction tokens generalizing state with
  | nil => exact absurd rfl begun
  | cons token tokens ih =>
    intro ran
    obtain ⟨between, stepped, rest⟩ := Option.bind_eq_some_iff.mp ran
    cases tokens with
    | nil =>
      cases rest
      exact step_ne_start stepped
    | cons token tokens => exact ih (List.cons_ne_nil _ _) rest

/-- The tokens of a value do not end in those of another. -/
theorem not_run_rest {tree other : Tree} (begun : first ≠ [])
    (whole : (value []).run (first ++ rest) = some (.after tree [])) :
    (value []).run rest ≠ some (.after other []) := by
  intro part
  rw [run_append] at whole
  obtain ⟨between, ran, onward⟩ := Option.bind_eq_some_iff.mp whole
  -- Both values close all they open, so nothing is open between them, and then nothing may follow.
  have closed : between.depth = 0 := by
    have all : ((0 : Nat) : Int) = between.depth + (rest.map Token.turn).sum := depth_run onward
    have own : ((0 : Nat) : Int) = (0 : Nat) + (rest.map Token.turn).sum := depth_run part
    omega
  cases between with
  | value stack =>
    rw [List.length_eq_zero_iff.mp closed] at ran
    exact run_ne_start begun ran
  | after known stack =>
    rw [List.length_eq_zero_iff.mp closed] at onward
    cases rest with
    | nil => cases part
    | cons token rest => cases onward
  | firstItem | firstKey | key | colon => cases closed

end State

end Balance

section Lines

theorem isBlank_of_isSpace {c : Char} (space : isSpace c = true) : Text.isBlank c = true := by
  have known : ((c = ' ' ∨ c = '\n') ∨ c = '\t') ∨ c = '\r' := by simpa [isSpace] using space
  rcases known with ((rfl | rfl) | rfl) | rfl <;> decide

theorem isSpace_of_not_isBlank {c : Char} (visible : Text.isBlank c = false) :
    isSpace c = false := by
  cases space : isSpace c with
  | false => rfl
  | true =>
    rw [isBlank_of_isSpace space] at visible
    cases visible

theorem Container.isBlank_opening (kind : Container) : Text.isBlank kind.opening = false := by
  cases kind <;> decide

theorem Container.isBlank_closing (kind : Container) : Text.isBlank kind.closing = false := by
  cases kind <;> decide

variable {c : Char} {before after text : List Char} {tokens : List Token}

theorem scan_line_break (mode : Mode) (before after : List Char) :
    scan mode (before ++ '\n' :: after) =
      (scan mode before).bind fun first => (tokens? after).map (first ++ ·) := by
  induction before generalizing mode with
  | nil =>
    cases mode with
    | between => simp [scan, tokens?, isSpace]
    | word letters =>
      cases found : wordToken? letters.reverse <;>
        simp [scan, tokens?, isSpace, found, Option.map_eq_bind]
    | quoted | escape | code => rfl
  | cons c before ih =>
    -- Neither side looks beyond this character, so both take the same branch.
    cases mode <;> simp only [List.cons_append, scan, ih] <;> repeat' split
    all_goals simp [Option.bind_assoc, Option.map_eq_bind]

theorem scan_punctuated {mode : Mode} {token : Token}
    (outside : mode = .between ∨ ∃ letters, mode = .word letters) (unquoted : '"' ∉ before)
    (known : punctuation? c = some token) (after : List Char) :
    scan mode (before ++ c :: after) =
      (scan mode before).bind fun first => (tokens? (c :: after)).map (first ++ ·) := by
  have mark : isSpace c = false ∧ c ≠ '"' := by
    unfold punctuation? at known
    split at known <;> first | exact ⟨rfl, by decide⟩ | cases known
  induction before generalizing mode with
  | nil =>
    rcases outside with rfl | ⟨letters, rfl⟩
    · simp [scan, tokens?]
    · simp [scan, tokens?, mark.1, mark.2, known, Option.bind_assoc, Option.map_eq_bind]
  | cons d before ih =>
    have plain : d ≠ '"' := fun same => unquoted (same ▸ List.mem_cons_self)
    have rest : '"' ∉ before := fun member => unquoted (List.mem_cons_of_mem d member)
    have between := ih (.inl rfl) rest
    have word (letters : List Char) := ih (.inr ⟨letters, rfl⟩) rest
    -- A character that is no quote leaves the scanner outside of strings.
    rcases outside with rfl | ⟨letters, rfl⟩ <;>
      simp only [List.cons_append, scan, plain, if_false, between, word] <;> repeat' split
    all_goals simp [Option.bind_assoc, Option.map_eq_bind]

theorem punctuation?_opening (kind : Container) : punctuation? kind.opening = some kind.opens := by
  cases kind <;> rfl

theorem ne_nil_of_ink (member : c ∈ text) (ink : isSpace c = false)
    (read : tokens? text = some tokens) : tokens ≠ [] := by
  obtain ⟨lead, d, rest, rfl, spaces, visible⟩ := exists_first_ink member ink
  rw [tokens?_lead _ spaces] at read
  have filled {next : Mode} (unfinished : next ≠ .between)
      (scanned : scan next rest = some tokens) : tokens ≠ [] := by
    obtain ⟨_, _, rfl, _⟩ := leaf_of_scan unfinished scanned
    exact List.cons_ne_nil _ _
  simp only [tokens?, scan, visible, Bool.false_eq_true, if_false] at read
  split at read
  · exact filled (by simp) read
  · split at read
    · obtain ⟨_, _, rfl⟩ := Option.map_eq_some_iff.mp read
      exact List.cons_ne_nil _ _
    · exact filled (by simp) read

theorem exists_tokens_below {token : Token} {mark : Char} {margin : List Char}
    (member : c ∈ before) (ink : isSpace c = false) (unquoted : '"' ∉ margin)
    (known : punctuation? mark = some token)
    (scanned : tokens? (before ++ '\n' :: (margin ++ mark :: after)) = some tokens) :
    ∃ first rest, first ≠ [] ∧ tokens? (mark :: after) = some rest ∧ tokens = first ++ rest := by
  rw [tokens?, scan_line_break] at scanned
  obtain ⟨above, top, scanned⟩ := Option.bind_eq_some_iff.mp scanned
  obtain ⟨below, bottom, rfl⟩ := Option.map_eq_some_iff.mp scanned
  rw [tokens?, scan_punctuated (.inl rfl) unquoted known] at bottom
  obtain ⟨gap, _, bottom⟩ := Option.bind_eq_some_iff.mp bottom
  obtain ⟨rest, inner, rfl⟩ := Option.map_eq_some_iff.mp bottom
  have begun : above ++ gap ≠ [] :=
    List.append_ne_nil_of_left_ne_nil (ne_nil_of_ink member ink top) gap
  exact ⟨above ++ gap, rest, begun, inner, (List.append_assoc _ _ _).symm⟩

theorem Tree.spaces_of_blank_end {tree : Tree} {kind : Container} {margin : List Char}
    (whole : Tree.read? (before ++ margin) = some tree) (holds : tree.container? = some kind)
    (blank : ∀ c ∈ margin, Text.isBlank c = true) : ∀ c ∈ margin, isSpace c = true := by
  obtain ⟨lead, inner, trail, same, _, spaces⟩ := Tree.brackets_of_read? whole holds
  have absent : kind.closing ∉ margin := fun member => by
    have visible := blank _ member
    rw [kind.isBlank_closing] at visible
    cases visible
  have last : kind.closing :: trail <:+ before ++ margin := by
    rw [same]
    exact ⟨lead ++ kind.opening :: inner, by simp⟩
  have inside : margin <:+ trail := by
    rcases List.suffix_or_suffix_of_suffix last (List.suffix_append before margin) with
      covers | covered
    · exact absurd (covers.subset List.mem_cons_self) absent
    · rcases List.suffix_cons_iff.mp covered with rfl | inside
      · exact absurd List.mem_cons_self absent
      · exact inside
  exact fun c member => spaces c (inside.subset member)

/-- Below a line break inside of a value no other value makes up the rest of the text. -/
theorem Tree.container?_below_line_break {tree other : Tree} {kind : Container}
    (whole : Tree.read? (before ++ '\n' :: after) = some tree)
    (holds : tree.container? = some kind) (member : c ∈ before) (ink : isSpace c = false)
    (part : Tree.read? (Text.trimChars after) = some other) : other.container? = none := by
  cases inner : other.container? with
  | none => rfl
  | some own =>
    exfalso
    obtain ⟨front, back, split, blankFront, blankBack⟩ := Text.exists_margins after
    obtain ⟨lead, middle, trail, core, leading, _⟩ := Tree.brackets_of_read? part inner
    have shape : before ++ '\n' :: after =
        (before ++ '\n' :: ((front ++ lead) ++ own.opening :: (middle ++ own.closing :: trail))) ++
          back := by
      rw [split, core]
      simp only [List.append_assoc, List.cons_append]
    rw [shape] at whole
    -- The blanks at the end are spaces, and those before the bracket hold no quote.
    have spaces := Tree.spaces_of_blank_end whole holds blankBack
    have unquoted : '"' ∉ front ++ lead :=
      List.not_mem_append (fun quote => absurd (blankFront _ quote) (by decide))
        (fun quote => absurd (leading _ quote) (by decide))
    obtain ⟨tokens, scanned, ran⟩ := Tree.run_of_read? whole
    obtain ⟨ownTokens, ownScanned, ownRan⟩ := Tree.run_of_read? part
    rw [tokens?_trail spaces] at scanned
    obtain ⟨first, rest, begun, scannedRest, rfl⟩ :=
      exists_tokens_below member ink unquoted (punctuation?_opening own) scanned
    rw [core, tokens?_lead _ leading, scannedRest] at ownScanned
    cases ownScanned
    exact State.not_run_rest begun ran ownRan

end Lines

end ClaimAudit.Json
