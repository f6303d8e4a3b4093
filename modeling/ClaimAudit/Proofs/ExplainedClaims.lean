import ClaimAudit.Explanation
import ClaimAudit.Proofs.TextPieces

/-! What the explanation of a score says about the claims.

The counts of the statuses add up to the number of judgments. Unsupported claims are told by their
positions: the first of them are listed in their order, cut where they are long, and the others are
counted, so that no position is left out.
-/

set_option autoImplicit false

namespace ClaimAudit

section Positions

variable {R : Type} {status : Status} {judgments : List (Judgment R)}

def positionsOf (status : Status) (judgments : List (Judgment R)) : List Nat :=
  (judgments.zipIdx.filter fun (j, _) => j.status = status).map Prod.snd

theorem pairwise_positionsOf (status : Status) (judgments : List (Judgment R)) :
    (positionsOf status judgments).Pairwise (· < ·) := by
  have positions : (positionsOf status judgments).Sublist (List.range' 0 judgments.length) := by
    rw [← List.zipIdx_map_snd 0 judgments]
    exact List.filter_sublist.map Prod.snd
  exact List.Pairwise.sublist positions List.pairwise_lt_range'

theorem mem_positionsOf {i : Nat} :
    i ∈ positionsOf status judgments ↔ ∃ j, judgments[i]? = some j ∧ j.status = status := by
  simp [positionsOf, List.mem_zipIdx_iff_getElem?]

theorem filter_status_eq (status : Status) (judgments : List (Judgment R)) :
    (judgments.filter fun j => j.status = status) =
      (judgments.zipIdx.filter fun (j, _) => j.status = status).map Prod.fst := by
  conv_lhs => rw [← List.zipIdx_map_fst 0 judgments, List.filter_map]
  rfl

theorem length_positionsOf (status : Status) (judgments : List (Judgment R)) :
    (positionsOf status judgments).length = countStatus status judgments := by
  rw [countStatus, List.countP_eq_length_filter, filter_status_eq, positionsOf, List.length_map,
    List.length_map]

theorem getElem?_filter_status {i place : Nat}
    (found : (positionsOf status judgments)[i]? = some place) :
    ∃ j, judgments[place]? = some j ∧
      (judgments.filter fun j => j.status = status)[i]? = some j := by
  rw [positionsOf, List.getElem?_map, Option.map_eq_some_iff] at found
  obtain ⟨⟨j, _⟩, selected, rfl⟩ := found
  refine ⟨j, ?_, ?_⟩
  · exact List.mem_zipIdx_iff_getElem?.mp (List.mem_filter.mp (List.mem_of_getElem? selected)).1
  · rw [filter_status_eq, List.getElem?_map, selected]
    rfl

theorem countStatus_add (judgments : List (Judgment R)) :
    countStatus .supported judgments + countStatus .partiallySupported judgments +
      countStatus .unsupported judgments + countStatus .unknown judgments = judgments.length := by
  induction judgments with
  | nil => rfl
  | cons j rest ih =>
    simp only [countStatus, List.countP_cons, List.length_cons] at ih ⊢
    cases j.status <;> simp only [reduceCtorEq, decide_true, decide_false, if_true, if_false,
      Bool.false_eq_true] <;> omega

end Positions

namespace Explanation

variable {R : Type} {scoring : Scoring R} {score : Float} {judgments : List (Judgment R)}
  {maxExamples limit : Nat} {claims : List Claim} {line : String}

/-- What is shown of a text with a limit on its characters. -/
inductive Shows (limit : Nat) : String → String → Prop where
  | whole {text : String} (short : text.length ≤ limit) : Shows limit text text
  | cut {front rest : String} (full : front.length = limit) (more : rest ≠ "") :
    Shows limit (front ++ rest) (front ++ "...")

theorem shows_shortened (limit : Nat) (text : String) :
    Shows limit text (shortened limit text) := by
  simp only [shortened, String.length_toList]
  split
  case isTrue short => exact .whole short
  case isFalse long =>
    have parts : text =
        String.ofList (text.toList.take limit) ++ String.ofList (text.toList.drop limit) := by
      rw [← String.ofList_append, List.take_append_drop, String.ofList_toList]
    have shown : String.ofList (text.toList.take limit ++ ['.', '.', '.']) =
        String.ofList (text.toList.take limit) ++ "..." := String.ofList_append
    have shows : Shows limit
        (String.ofList (text.toList.take limit) ++ String.ofList (text.toList.drop limit))
        (String.ofList (text.toList.take limit) ++ "...") := by
      refine .cut ?_ fun none => long ?_
      · rw [String.length_ofList, List.length_take, String.length_toList]
        omega
      · have short := List.drop_eq_nil_iff.mp (String.ofList_eq_empty_iff.mp none)
        rwa [String.length_toList] at short
    rwa [← parts, ← shown] at shows

/-- Characters are counted, not bytes. -/
example : shortened 2 "日本" = "日本" ∧ shortened 2 "日本語" = "日本..." := by decide

/-- Entries that show the claims at some positions, in their order and numbered from one. -/
structure Lists (limit : Nat) (judgments : List (Judgment R)) (places : List Nat)
    (entries : List String) : Prop where
  length : entries.length = places.length
  entry : ∀ i place : Nat, places[i]? = some place → ∃ j shown, judgments[place]? = some j ∧
    Shows limit j.claim.text shown ∧ entries[i]? = some s!"  {i + 1}. {shown}"

/-- The lines about the claims at some positions, of which so many may be listed. -/
inductive Section (maxExamples limit : Nat) (judgments : List (Judgment R)) (places : List Nat) :
    List String → Prop where
  | absent (none : places = []) : Section maxExamples limit judgments places []
  | all {entries : List String} (some : places ≠ []) (few : places.length ≤ maxExamples)
    (lists : Lists limit judgments places entries) :
    Section maxExamples limit judgments places (["", "Unsupported Claims:"] ++ entries)
  | first {entries : List String} {k : Nat} (more : 0 < k)
    (rest : places.length = maxExamples + k)
    (lists : Lists limit judgments (places.take maxExamples) entries) :
    Section maxExamples limit judgments places
      (["", "Unsupported Claims:"] ++ entries ++ [s!"  ... and {k} more"])

theorem length_unsupportedClaims (judgments : List (Judgment R)) :
    (unsupportedClaims judgments).length = (positionsOf .unsupported judgments).length := by
  rw [length_positionsOf, countStatus, List.countP_eq_length_filter, unsupportedClaims,
    List.length_map]

theorem unsupportedClaims_eq_nil_iff :
    unsupportedClaims judgments = [] ↔ positionsOf .unsupported judgments = [] := by
  rw [← List.length_eq_zero_iff, length_unsupportedClaims, List.length_eq_zero_iff]

theorem lists_take (maxExamples limit : Nat) (judgments : List (Judgment R)) :
    Lists limit judgments ((positionsOf .unsupported judgments).take maxExamples)
      (((unsupportedClaims judgments).take maxExamples).zipIdx.map fun (claim, index) =>
        exampleLine limit claim index) where
  length := by
    rw [List.length_map, List.length_zipIdx, List.length_take, List.length_take,
      length_unsupportedClaims]
  entry i place found := by
    rw [List.getElem?_take] at found
    split at found
    case isFalse => cases found
    case isTrue below =>
      obtain ⟨j, judged, selected⟩ := getElem?_filter_status found
      refine ⟨j, _, judged, shows_shortened limit j.claim.text, ?_⟩
      rw [List.getElem?_map, List.getElem?_zipIdx, List.getElem?_take_of_lt below,
        unsupportedClaims, List.getElem?_map, selected, Nat.zero_add]
      rfl

theorem section_exampleLines (maxExamples limit : Nat) (judgments : List (Judgment R)) :
    Section maxExamples limit judgments (positionsOf .unsupported judgments)
      (exampleLines maxExamples limit (unsupportedClaims judgments)) := by
  have count := length_unsupportedClaims judgments
  have lists := lists_take maxExamples limit judgments
  simp only [exampleLines, List.isEmpty_iff, unsupportedClaims_eq_nil_iff]
  split
  case isTrue none =>
    rw [none]
    exact .absent rfl
  case isFalse some =>
    split
    case isTrue many => exact .first (by omega) (by omega) lists
    case isFalse few =>
      rw [List.take_of_length_le (by omega)] at lists
      rw [List.append_nil]
      exact .all some (by omega) lists

theorem mem_exampleLines_iff : line ∈ exampleLines maxExamples limit claims ↔ claims ≠ [] ∧
    (line = "" ∨ line = "Unsupported Claims:" ∨
      (∃ entry ∈ (claims.take maxExamples).zipIdx, exampleLine limit entry.1 entry.2 = line) ∨
      maxExamples < claims.length ∧ line = s!"  ... and {claims.length - maxExamples} more") := by
  simp only [exampleLines, List.isEmpty_iff]
  split
  case isTrue none => exact iff_of_false (List.not_mem_nil) fun some => some.1 none
  case isFalse some =>
    simp only [List.mem_append, List.mem_cons, List.not_mem_nil, or_false, List.mem_map, ne_eq,
      some, not_false_eq_true, true_and, List.mem_ite_nil_right, or_assoc]

section Openings

theorem ne_of_openings {front front' : List Char} {line other : String}
    (opens : front <+: line.toList) (opens' : front' <+: other.toList)
    (apart : ¬ front <+: front' ∧ ¬ front' <+: front) : line ≠ other := by
  rintro rfl
  exact (List.prefix_or_prefix_of_prefix opens opens').elim apart.1 apart.2

theorem ne_empty_of_opening {c : Char} {front : List Char} (opens : c :: front <+: line.toList) :
    line ≠ "" := by
  rintro rfl
  cases List.prefix_nil.mp opens

theorem opening_append {front : List Char} {begin : String} (rest : String)
    (opens : front <+: begin.toList) : front <+: (begin ++ rest).toList := by
  rw [String.toList_append]
  exact opens.trans (List.prefix_append _ _)

theorem opening_heading : ['U'] <+: "Unsupported Claims:".toList := by decide

theorem opening_more (k : Nat) : [' ', ' ', '.'] <+: (s!"  ... and {k} more").toList :=
  opening_append _ (opening_append _ (by decide))

theorem eq_of_more {k others : Nat}
    (same : s!"  ... and {k} more" = s!"  ... and {others} more") : k = others := by
  have texts := congrArg String.toList same
  simp only [String.toList_append] at texts
  have digits : k.repr.toList = others.repr.toList :=
    List.append_cancel_left (List.append_cancel_right texts)
  rw [Nat.toList_repr, Nat.toList_repr] at digits
  have numbers := congrArg (Nat.ofDigitChars 10 · 0) digits
  simpa only [Nat.ofDigitChars_toDigits (by decide : 1 < 10) le_rfl] using numbers

theorem opening_countLine (judgments : List (Judgment R)) (status : Status) :
    ∃ c ≠ '.', [' ', ' ', c] <+: (countLine judgments status).toList := by
  have opens {c : Char} (marked : (mark status).toList = [c]) :
      [' ', ' ', c] <+: (countLine judgments status).toList := by
    have begins : [' ', ' ', c] <+: ("  " ++ mark status).toList := by
      rw [String.toList_append, marked]
      exact List.prefix_rfl
    iterate 7 apply opening_append
    exact begins
  cases status with
  | supported => exact ⟨'✓', by decide, opens rfl⟩
  | partiallySupported => exact ⟨'⚠', by decide, opens rfl⟩
  | unsupported => exact ⟨'✗', by decide, opens rfl⟩
  | unknown => exact ⟨'?', by decide, opens rfl⟩

theorem opening_exampleLine (limit : Nat) (claim : Claim) (index : Nat) :
    ∃ c ≠ '.', [' ', ' ', c] <+: (exampleLine limit claim index).toList := by
  have digits : (index + 1).repr.toList ≠ [] := by
    rw [Nat.toList_repr]
    exact Nat.toDigits_ne_nil
  obtain ⟨c, rest, written⟩ := List.exists_cons_of_ne_nil digits
  refine ⟨c, ?_, ?_⟩
  · rintro rfl
    have member : '.' ∈ Nat.toDigits 10 (index + 1) := by
      rw [← Nat.toList_repr, written]
      exact List.mem_cons_self
    cases Nat.isDigit_of_mem_toDigits (by decide) (by decide) member
  · refine opening_append _ (opening_append _ (?_ : _ <+: ("  " ++ (index + 1).repr).toList))
    rw [String.toList_append, written]
    exact List.prefix_append [' ', ' ', c] rest

theorem opening_of_mem (member : line ∈ lines scoring score judgments) :
    line ∈ exampleLines scoring.maxExamples scoring.maxExampleChars (unsupportedClaims judgments) ∨
      line = "" ∨ ['F'] <+: line.toList ∨ ['T'] <+: line.toList ∨
      ∃ c ≠ '.', [' ', ' ', c] <+: line.toList := by
  simp only [lines, List.mem_append, List.mem_cons, List.not_mem_nil, or_false, List.mem_map]
    at member
  rcases member with ((scored | blank | total) | ⟨status, _, counted⟩) | listed
  · rw [scored]
    exact .inr (.inr (.inl (opening_append _ (opening_append _ (by decide)))))
  · exact .inr (.inl blank)
  · rw [total]
    exact .inr (.inr (.inr (.inl (opening_append _ (by decide)))))
  · rw [← counted]
    exact .inr (.inr (.inr (.inr (opening_countLine judgments status))))
  · exact .inl listed

end Openings

theorem heading_mem_lines_iff :
    "Unsupported Claims:" ∈ lines scoring score judgments ↔ unsupportedClaims judgments ≠ [] := by
  have opens := opening_heading
  constructor
  · intro member
    rcases opening_of_mem member with listed | blank | other | other | ⟨c, _, other⟩
    · exact (mem_exampleLines_iff.mp listed).1
    · exact absurd blank (ne_empty_of_opening opens)
    · exact absurd rfl (ne_of_openings opens other (by decide))
    · exact absurd rfl (ne_of_openings opens other (by decide))
    · exact absurd rfl (ne_of_openings opens other (by simp))
  · exact fun some =>
      List.mem_append_right _ (mem_exampleLines_iff.mpr ⟨some, .inr (.inl rfl)⟩)

theorem more_mem_lines_iff {k : Nat} :
    s!"  ... and {k} more" ∈ lines scoring score judgments ↔
      0 < k ∧ (unsupportedClaims judgments).length = scoring.maxExamples + k := by
  have opens := opening_more k
  constructor
  · intro member
    rcases opening_of_mem member with listed | blank | other | other | ⟨c, apart, other⟩
    · obtain ⟨_, blank | heading | ⟨⟨claim, index⟩, _, entry⟩ | ⟨many, more⟩⟩ :=
        mem_exampleLines_iff.mp listed
      · exact absurd blank (ne_empty_of_opening opens)
      · exact absurd heading (ne_of_openings opens opening_heading (by decide))
      · obtain ⟨c, apart, other⟩ := opening_exampleLine scoring.maxExampleChars claim index
        exact absurd entry.symm (ne_of_openings opens other (by simp [apart, apart.symm]))
      · have same := eq_of_more more
        omega
    · exact absurd blank (ne_empty_of_opening opens)
    · exact absurd rfl (ne_of_openings opens other (by decide))
    · exact absurd rfl (ne_of_openings opens other (by decide))
    · exact absurd rfl (ne_of_openings opens other (by simp [apart, apart.symm]))
  · rintro ⟨more, count⟩
    have rest : (unsupportedClaims judgments).length - scoring.maxExamples = k := by omega
    have some : unsupportedClaims judgments ≠ [] := List.ne_nil_of_length_pos (by omega)
    refine List.mem_append_right _ (mem_exampleLines_iff.mpr ⟨some, .inr (.inr (.inr ?_))⟩)
    rw [rest]
    exact ⟨by omega, rfl⟩

/-- What an explanation says of the claims: how many have each status, and at which positions the
unsupported ones stand. -/
structure Accounts (scoring : Scoring R) (score : Float) (judgments : List (Judgment R))
    (counts : Status → Nat) (places : List Nat) (closing : List String) : Prop where
  printed : lines scoring score judgments =
    [s!"Faithfulness Score: {Number.fixed 2 score}/1.00", "",
      s!"Total Claims Analyzed: {judgments.length}"] ++
    (Status.all.map fun status =>
      let share := Number.fixed 1 (percent (counts status) judgments.length)
      s!"  {mark status} {status.label}: {counts status} ({share}%)") ++ closing
  counted : ∀ status, counts status = judgments.countP fun j => j.status = status
  total : counts .supported + counts .partiallySupported + counts .unsupported + counts .unknown =
    judgments.length
  inOrder : places.Pairwise (· < ·)
  complete : ∀ i, i ∈ places ↔ ∃ j, judgments[i]? = some j ∧ j.status = .unsupported
  number : counts .unsupported = places.length
  closes : Section scoring.maxExamples scoring.maxExampleChars judgments places closing
  headed : "Unsupported Claims:" ∈ lines scoring score judgments ↔ places ≠ []
  remainder : ∀ k : Nat, s!"  ... and {k} more" ∈ lines scoring score judgments ↔
    0 < k ∧ places.length = scoring.maxExamples + k

/-- Every explanation accounts for all claims, and blanks at its end are all that it lacks of the
lines that say so. -/
theorem text_accounts_for_claims (scoring : Scoring R) (score : Float)
    (judgments : List (Judgment R)) :
    (∃ counts places closing, Accounts scoring score judgments counts places closing) ∧
    ∃ trail, (text scoring score judgments).toList ++ trail =
        ("\n".intercalate (lines scoring score judgments)).toList ∧
      (∀ c ∈ trail, Text.isBlank c = true) ∧
      ∀ c ∈ (text scoring score judgments).toList.getLast?, Text.isBlank c = false := by
  refine ⟨⟨fun status => countStatus status judgments, positionsOf .unsupported judgments,
    exampleLines scoring.maxExamples scoring.maxExampleChars (unsupportedClaims judgments), ?_⟩, ?_⟩
  · exact {
      printed := rfl
      counted := fun _ => rfl
      total := countStatus_add judgments
      inOrder := pairwise_positionsOf .unsupported judgments
      complete := fun _ => mem_positionsOf
      number := (length_positionsOf .unsupported judgments).symm
      closes := section_exampleLines _ _ judgments
      headed := heading_mem_lines_iff.trans (not_congr unsupportedClaims_eq_nil_iff)
      remainder := fun k => by rw [more_mem_lines_iff, length_unsupportedClaims] }
  · rw [text, String.toList_ofList]
    exact Text.exists_trail _

end Explanation

end ClaimAudit
