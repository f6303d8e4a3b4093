import ClaimAudit.Proofs.ClaimProvenance
import ClaimAudit.Proofs.JsonNesting

/-! Replies that hold JSON among other text.

A JSON text of an array or an object ends with its bracket and spaces, so a fence behind it cannot
be found too early: neither in the text, if it has no fence, nor across its end. What stands around
the fences, or around the brackets where there are no fences, makes no difference.
-/

set_option autoImplicit false

namespace ClaimAudit

namespace Reply

open Json (Container Tree isSpace isBlank_of_isSpace)

variable {before text after : List Char} {tree : Tree} {kind : Container}

theorem opening_notMem_fence (kind : Container) : kind.opening ∉ fence := by
  cases kind <;> decide

theorem closing_notMem_fence (kind : Container) : kind.closing ∉ fence := by
  cases kind <;> decide

theorem read?_trimChars (whole : Tree.read? text = some tree)
    (holds : tree.container? = some kind) : Tree.read? (Text.trimChars text) = some tree := by
  obtain ⟨lead, inner, trail, rfl, leading, trailing⟩ := Tree.brackets_of_read? whole holds
  rw [Text.trimChars_margins (fun c member => isBlank_of_isSpace (leading c member))
    (fun c member => isBlank_of_isSpace (trailing c member)) kind.isBlank_opening
    kind.isBlank_closing, ← whole, ← Tree.read?_margins leading trailing]
  simp only [List.append_assoc, List.cons_append, List.nil_append]

section Fences

theorem ne_backquote_of_notMem_fence {c : Char} (foreign : c ∉ fence) : c ≠ '\x60' :=
  fun same => foreign (same ▸ List.mem_cons_self)

theorem getLast?_of_read? (whole : Tree.read? text = some tree)
    (holds : tree.container? = some kind) : text.getLast? ≠ some '\x60' := by
  obtain ⟨lead, inner, trail, rfl, _, trailing⟩ := Tree.brackets_of_read? whole holds
  intro last
  have member : '\x60' ∈ kind.closing :: trail := by
    apply List.mem_of_getLast?
    simpa [List.getLast?_append, List.getLast?_cons] using last
  rcases List.mem_cons.mp member with same | space
  · exact ne_backquote_of_notMem_fence (closing_notMem_fence kind) same.symm
  · exact not_mem_of_spaces trailing (by decide) space

theorem no_fence_across_end (plain : ¬ fence <:+: text) (ends : text.getLast? ≠ some '\x60') :
    ¬ fence <:+: text ++ fence.dropLast := by
  rcases List.eq_nil_or_concat' text with rfl | ⟨front, c, rfl⟩
  · decide
  · have foreign : c ∉ fence := by
      intro member
      have same : c = '\x60' := by simpa [fence] using member
      exact ends (by rw [List.getLast?_concat, same])
    rw [List.append_assoc, List.singleton_append, Text.infix_append_mark_iff foreign]
    rintro (early | late)
    · exact plain (early.trans (List.prefix_append _ _).isInfix)
    · exact absurd late (by decide)

theorem splitFirst_fence (after : List Char) (plain : ¬ fence <:+: text)
    (ends : text.getLast? ≠ some '\x60') :
    Text.splitFirst fence (text ++ fence ++ after) = some (text, after) :=
  Text.splitFirst_append after (no_fence_across_end plain ends)

theorem jsonBlock?_wrapped (after : List Char) (first : ¬ jsonFence <:+: before)
    (plain : ¬ fence <:+: text) (ends : text.getLast? ≠ some '\x60') :
    jsonBlock? (before ++ jsonFence ++ (text ++ fence ++ after)) = some text := by
  have early : ¬ jsonFence <:+: before ++ jsonFence.dropLast :=
    (Text.infix_append_margin_iff rfl (by decide)).not.mpr first
  simp only [jsonBlock?, Text.splitFirst_append _ early, splitFirst_fence after plain ends,
    Option.bind_eq_bind, Option.bind_some, Option.pure_def]

theorem jsonBlock?_of_absent {reply : List Char} (absent : ¬ jsonFence <:+: reply) :
    jsonBlock? reply = none := by
  rw [jsonBlock?, Text.splitFirst_eq_none_iff.mpr absent]
  rfl

theorem no_jsonFence_of_no_fence (plain : ¬ fence <:+: text) : ¬ jsonFence <:+: text :=
  fun found => plain ((List.prefix_append fence _).isInfix.trans found)

theorem unfenced_of_absent {reply : List Char} (absent : ¬ fence <:+: reply) : Unfenced reply where
  json := jsonBlock?_of_absent (no_jsonFence_of_no_fence absent)
  block := by
    rw [fencedBlock?, Text.splitFirst_eq_none_iff.mpr absent]
    rfl

theorem no_fence_around (whole : Tree.read? text = some tree) (holds : tree.container? = some kind)
    (plain : ¬ fence <:+: text) (front : ¬ fence <:+: before) (back : ¬ fence <:+: after) :
    ¬ fence <:+: before ++ text ++ after := by
  obtain ⟨lead, inner, trail, rfl, leading, trailing⟩ := Tree.brackets_of_read? whole holds
  have shape : before ++ (lead ++ kind.opening :: (inner ++ kind.closing :: trail)) ++ after =
      (before ++ lead) ++ kind.opening :: (inner ++ kind.closing :: (trail ++ after)) := by
    simp only [List.append_assoc, List.cons_append]
  have apart : '\x60' ∉ lead ∧ '\x60' ∉ trail :=
    ⟨not_mem_of_spaces leading (by decide), not_mem_of_spaces trailing (by decide)⟩
  rw [Text.infix_append_mark_iff (opening_notMem_fence kind),
    Text.infix_append_mark_iff (closing_notMem_fence kind)] at plain
  -- The brackets keep what stands around the text apart from it.
  rw [shape, Text.infix_append_mark_iff (opening_notMem_fence kind),
    Text.infix_append_mark_iff (closing_notMem_fence kind),
    Text.infix_append_margin_iff rfl apart.1, Text.infix_margin_append_iff rfl apart.2]
  rintro (found | found | found)
  · exact front found
  · exact plain (.inr (.inl found))
  · exact back found

end Fences

/-- A text is set off in a reply: it stands behind the first fence that names JSON, or without
fences between the outermost brackets. -/
inductive SetOff (kind : Container) (text : String) : String → Prop where
  | fenced (before after : String) (first : ¬ jsonFence <:+: before.toList) :
      SetOff kind text (before ++ "\x60\x60\x60json" ++ text ++ "\x60\x60\x60" ++ after)
  | bare (before after : String) (front : ¬ fence <:+: before.toList)
      (back : ¬ fence <:+: after.toList) (opening : kind.opening ∉ before.toList)
      (closing : kind.closing ∉ after.toList) :
      SetOff kind text (before ++ text ++ after)

theorem read?_excerpt_of_setOff {text reply : String} (whole : Tree.read? text.toList = some tree)
    (holds : tree.container? = some kind) (plain : ¬ fence <:+: text.toList)
    (setOff : SetOff kind text reply) :
    Tree.read? (excerpt kind.opening kind.closing reply.toList) = some tree := by
  cases setOff with
  | fenced before after first =>
    have shape : (before ++ "\x60\x60\x60json" ++ text ++ "\x60\x60\x60" ++ after).toList =
        before.toList ++ jsonFence ++ (text.toList ++ fence ++ after.toList) := by
      simp only [String.toList_append, List.append_assoc]
      rfl
    rw [shape, excerpt, jsonBlock?_wrapped _ first plain (getLast?_of_read? whole holds)]
    exact read?_trimChars whole holds
  | bare before after front back opening closing =>
    rw [String.toList_append, String.toList_append]
    have absent := no_fence_around whole holds plain front back
    exact excerpt_of_surrounded whole holds (unfenced_of_absent absent) opening closing

end Reply

open Json

def Extraction.ofValue? (config : Config) : Option Value → Option (List Claim)
  | some (.array items) => some (claimsAmong config items)
  | _ => none

def Verification.ofValue? (claim : Claim) : Option Value → Except Problem (Judgment Float)
  | some value => ofValue claim value
  | none => .error .unreadable

theorem Extraction.claims?_of_excerpt (config : Config) {reply : String} {tree : Tree}
    (read : Tree.read? (Reply.excerpt '[' ']' reply.toList) = some tree) :
    claims? config reply = ofValue? config (tree.value? maxLevels) := by
  have value : Value.read? (Reply.excerpt '[' ']' reply.toList) = tree.value? maxLevels := by
    rw [Value.read?, read]
    rfl
  cases known : tree.value? maxLevels with
  | none => rw [claims?, value, known]; rfl
  | some found =>
    rw [known] at value
    cases found with
    | array items => exact claims?_of_read? value
    | null | bool | number | string | object => rw [claims?, value]; rfl

theorem Verification.ofReply_of_excerpt (claim : Claim) {reply : String} {tree : Tree}
    (read : Tree.read? (Reply.excerpt '\x7b' '\x7d' reply.toList) = some tree) :
    ofReply claim reply = ofValue? claim (tree.value? maxLevels) := by
  have value : Value.read? (Reply.excerpt '\x7b' '\x7d' reply.toList) = tree.value? maxLevels := by
    rw [Value.read?, read]
    rfl
  rw [ofReply, value]
  cases tree.value? maxLevels <;> rfl

/-- An array that is set off in a reply is read as its own value, whatever stands around it, and
so is an object. It has one unless it nests too deep or a literal stands for nothing. -/
theorem json_set_off_is_read (config : Extraction.Config) (claim : Claim) {text : String}
    {tree : Tree} (whole : Tree.read? text.toList = some tree)
    (plain : ¬ Reply.fence <:+: text.toList) :
    (tree.container? = some .items →
      ((∃ items, tree.value? maxLevels = some (.array items)) ↔
        tree.depth ≤ maxLevels ∧ tree.Denotes) ∧
      ∀ reply, Reply.SetOff .items text reply →
        Extraction.claims? config reply = Extraction.ofValue? config (tree.value? maxLevels)) ∧
    (tree.container? = some .members →
      ((∃ members, tree.value? maxLevels = some (.object members)) ↔
        tree.depth ≤ maxLevels ∧ tree.Denotes) ∧
      ∀ reply, Reply.SetOff .members text reply →
        Verification.ofReply claim reply =
          Verification.ofValue? claim (tree.value? maxLevels)) := by
  refine ⟨fun holds => ⟨?_, fun reply setOff => ?_⟩, fun holds => ⟨?_, fun reply setOff => ?_⟩⟩
  · rw [Tree.exists_array_iff holds, tree.isSome_value?_iff]
  · have read := Reply.read?_excerpt_of_setOff whole holds plain setOff
    exact Extraction.claims?_of_excerpt config read
  · rw [Tree.exists_object_iff holds, tree.isSome_value?_iff]
  · have read := Reply.read?_excerpt_of_setOff whole holds plain setOff
    exact Verification.ofReply_of_excerpt claim read

/-- Brackets and further fences around it do no harm. -/
theorem json_set_off_is_read_among_brackets :
    let text := "[\"is \x60\x60 or ]\", 7]"
    let fenced :=
      "[\x60\x60\x60]\x60\x60\x60json[\"is \x60\x60 or ]\", 7]\x60\x60\x60]\x60\x60\x60json"
    let bare := "] says [\"is \x60\x60 or ]\", 7] to ["
    let object := "\x7b\"status\":\"supported\"\x7d"
    let judged := "\x7d: \x7b\"status\":\"supported\"\x7d"
    (∃ tree, Tree.read? text.toList = some tree ∧ tree.container? = some .items) ∧
      ¬ Reply.fence <:+: text.toList ∧
      Reply.SetOff .items text fenced ∧ Reply.SetOff .items text bare ∧
      Extraction.claims? {} fenced = some [⟨"is \x60\x60 or ]"⟩] ∧
      Extraction.claims? {} bare = some [⟨"is \x60\x60 or ]"⟩] ∧
      (∃ tree, Tree.read? object.toList = some tree ∧ tree.container? = some .members) ∧
      ¬ Reply.fence <:+: object.toList ∧ Reply.SetOff .members object judged ∧
      Verification.ofReply ⟨"Water is wet"⟩ judged =
        .ok ⟨⟨"Water is wet"⟩, .supported, Verification.defaultConfidence, []⟩ := by
  intro text fenced bare object judged
  have whole : ∃ tree, Tree.read? text.toList = some tree ∧ tree.container? = some .items ∧
      tree.value? maxLevels = some (.array [.string "is \x60\x60 or ]", .ofNat 7]) :=
    ⟨_, by cbv, by cbv, by cbv⟩
  obtain ⟨tree, read, holds, known⟩ := whole
  have plain : ¬ Reply.fence <:+: text.toList := by decide +kernel
  have inFence : Reply.SetOff .items text fenced :=
    .fenced "[\x60\x60\x60]" "]\x60\x60\x60json" (by decide +kernel)
  have inProse : Reply.SetOff .items text bare :=
    .bare "] says " " to [" (by decide +kernel) (by decide +kernel) (by decide) (by decide)
  have found := ((json_set_off_is_read {} ⟨""⟩ read plain).1 holds).2
  have other : ∃ tree, Tree.read? object.toList = some tree ∧ tree.container? = some .members ∧
      tree.value? maxLevels = some (.object [("status", .string "supported")]) :=
    ⟨_, by cbv, by cbv, by cbv⟩
  obtain ⟨record, seen, keeps, stated⟩ := other
  have bland : ¬ Reply.fence <:+: object.toList := by decide +kernel
  have after : Reply.SetOff .members object judged :=
    .bare "\x7d: " "" (by decide +kernel) (by decide +kernel) (by decide) (by decide)
  have verdict := ((json_set_off_is_read {} ⟨"Water is wet"⟩ seen bland).2 keeps).2
  refine ⟨⟨tree, read, holds⟩, plain, inFence, inProse, ?_, ?_, ⟨record, seen, keeps⟩, bland,
    after, ?_⟩
  · rw [found fenced inFence, known]
    cbv
  · rw [found bare inProse, known]
    cbv
  · rw [verdict judged after, stated]
    rfl

/-- A number that is too great hides the strings next to it. -/
theorem great_number_hides_claims :
    let text := "[\"Water boils at 100C\", 1e999]"
    Tree.read? text.toList =
        some (.array [.string (some "Water boils at 100C"), .number none]) ∧
      ¬ Reply.fence <:+: text.toList ∧
      Extraction.claims? {} ("\x60\x60\x60json" ++ text ++ "\x60\x60\x60") = none ∧
      Extraction.claims? {} ("The claims are " ++ text ++ ".") = none := by
  have literal : Literal.ofChars? ['1', 'e', '9', '9', '9'] =
      some ⟨false, ['1'], [], some 999⟩ := by cbv
  have great : (Literal.mk false ['1'] [] (some 999)).number? = none := by decide +kernel
  have word : wordToken? ['1', 'e', '9', '9', '9'] = some (.number none) := by
    rw [wordToken?, literal, Option.map_some, great]
    rfl
  refine ⟨?_, by decide +kernel, by decide +kernel, by decide +kernel⟩
  simp [Tree.read?, tokens?, scan, isSpace, punctuation?, charsOfPieces?, word]
  rfl

end ClaimAudit
