import ClaimAudit.Extraction
import ClaimAudit.Proofs.JsonText
import ClaimAudit.Proofs.TextPieces
import ClaimAudit.Verification
import Mathlib

/-! Replies that are JSON as a whole.

The part of a reply that is read is found by searching for fences and brackets, also
inside strings. Brackets in strings do no harm, since the outermost brackets of an array
or an object are at its ends. A fence does, if it is closed.
-/

set_option autoImplicit false

namespace ClaimAudit

namespace Reply

open Json (Container Tree Value isSpace maxLevels)

/-- No block of the reply is fenced off to its end. -/
structure Unfenced (reply : List Char) : Prop where
  json : jsonBlock? reply = none
  block : fencedBlock? reply = none

theorem not_mem_of_spaces {margin : List Char} (spaces : ∀ c ∈ margin, isSpace c = true)
    {mark : Char} (ink : isSpace mark = false) : mark ∉ margin := by
  intro member
  rw [spaces mark member] at ink
  cases ink

theorem isSpace_opening (kind : Container) : isSpace kind.opening = false := by
  cases kind <;> decide

theorem isSpace_closing (kind : Container) : isSpace kind.closing = false := by
  cases kind <;> decide

/-- The text of a container is what is read of a reply without closed fences, if no such bracket
opens before it and none closes after it. -/
theorem excerpt_of_surrounded {before text after : List Char} {tree : Tree} {kind : Container}
    (whole : Tree.read? text = some tree) (holds : tree.container? = some kind)
    (unfenced : Unfenced (before ++ text ++ after)) (opening : kind.opening ∉ before)
    (closing : kind.closing ∉ after) :
    Tree.read? (excerpt kind.opening kind.closing (before ++ text ++ after)) = some tree := by
  obtain ⟨lead, inner, trail, rfl, leading, trailing⟩ := Tree.brackets_of_read? whole holds
  -- Spaces stand next to the brackets, so the searches cannot find others outside of them.
  have front : kind.opening ∉ before ++ lead :=
    List.not_mem_append opening (not_mem_of_spaces leading (isSpace_opening kind))
  have back : kind.closing ∉ trail ++ after :=
    List.not_mem_append (not_mem_of_spaces trailing (isSpace_closing kind)) closing
  have shape : before ++ (lead ++ kind.opening :: (inner ++ kind.closing :: trail)) ++ after =
      (before ++ lead) ++ kind.opening :: (inner ++ kind.closing :: (trail ++ after)) := by
    simp only [List.append_assoc, List.cons_append]
  have found : bracketed? kind.opening kind.closing
      (before ++ (lead ++ kind.opening :: (inner ++ kind.closing :: trail)) ++ after) =
        some (kind.opening :: inner ++ [kind.closing]) := by
    simp only [shape, bracketed?, Text.splitFirst_mark _ front, Text.splitLast_mark inner back,
      Option.bind_eq_bind, Option.bind_some, Option.pure_def]
  rw [excerpt, unfenced.json, unfenced.block, found, Option.getD_some, ← whole,
    ← Tree.read?_margins leading trailing]
  simp only [List.append_assoc, List.cons_append, List.nil_append]

theorem excerpt_of_read? {reply : List Char} {tree : Tree} {kind : Container}
    (whole : Tree.read? reply = some tree) (holds : tree.container? = some kind)
    (unfenced : Unfenced reply) :
    Tree.read? (excerpt kind.opening kind.closing reply) = some tree := by
  have alone : [] ++ reply ++ [] = reply := by rw [List.nil_append, List.append_nil]
  have read := excerpt_of_surrounded whole holds (alone.symm ▸ unfenced) List.not_mem_nil
    List.not_mem_nil
  rwa [alone] at read

theorem read?_excerpt {reply : List Char} {tree : Tree} (kind : Container)
    (whole : Tree.read? reply = some tree) (holds : tree.container? = some kind)
    (unfenced : Unfenced reply) :
    Value.read? (excerpt kind.opening kind.closing reply) = tree.value? maxLevels := by
  rw [Value.read?, excerpt_of_read? whole holds unfenced]
  rfl

end Reply

namespace Json

theorem Tree.container?_of_array {tree : Tree} {levels : Nat} {items : List Value}
    (known : tree.value? levels = some (.array items)) : tree.container? = some .items := by
  cases tree with
  | array trees => rfl
  | object members => cases levels <;> simp [Tree.value?] at known
  | null | bool => cases known
  | number literal | string literal => cases literal <;> cases known

theorem Tree.container?_of_object {tree : Tree} {levels : Nat} {members : Members}
    (known : tree.value? levels = some (.object members)) : tree.container? = some .members := by
  cases tree with
  | object entries => rfl
  | array trees => cases levels <;> simp [Tree.value?] at known
  | null | bool => cases known
  | number literal | string literal => cases literal <;> cases known

end Json

namespace Extraction

theorem filterMap_claim? (minChars : Nat) (items : List Json.Value) :
    items.filterMap (claim? minChars) =
      (((items.filterMap Json.Value.string?).map Text.trim).filter
        fun text => minChars < text.length).map Claim.mk := by
  induction items with
  | nil => rfl
  | cons item items ih =>
    cases spoken : item.string? with
    | none => simp [claim?, spoken, ih]
    | some text =>
      by_cases long : minChars < (Text.trim text).length <;> simp [claim?, spoken, long, ih]

end Extraction

namespace Verification

theorem ofValue_object_error {claim : Claim} {members : Json.Members} {problem : Problem}
    (refused : ofValue claim (.object members) = .error problem) :
    judgedStatus members = .error problem ∨
      confidence (Json.Members.get? "confidence" members) = .error problem := by
  simp only [ofValue] at refused
  cases known : judgedStatus members with
  | error other =>
    rw [known] at refused
    cases refused
    exact .inl rfl
  | ok status =>
    rw [known] at refused
    cases stated : confidence (Json.Members.get? "confidence" members) with
    | error other =>
      rw [stated] at refused
      cases refused
      exact .inr rfl
    | ok x =>
      rw [stated] at refused
      cases refused

theorem readable_of_judgedStatus {members : Json.Members} {problem : Problem}
    (refused : judgedStatus members = .error problem) : problem ≠ .unreadable := by
  unfold judgedStatus at refused
  split at refused
  · cases refused
    nofun
  · split at refused <;> cases refused <;> nofun

theorem readable_of_confidence {stated : Option Json.Value} {problem : Problem}
    (refused : confidence stated = .error problem) : problem ≠ .unreadable := by
  unfold confidence at refused
  split at refused
  · cases refused
  · cases refused
  · split at refused <;> cases refused
    nofun

end Verification

open Json (Tree Value maxLevels)

/-- A reply that is a JSON array as a whole, with no closed fence in it, is read as that
array, and one that is an object is judged by that object, whatever their strings hold.
Only what the reader does not accept is refused: a literal without a value, or more
levels than it follows. -/
theorem whole_reply_is_read (config : Extraction.Config) (claim : Claim) {reply : String}
    {tree : Tree} (whole : Tree.read? reply.toList = some tree)
    (unfenced : Reply.Unfenced reply.toList) :
    (∀ items, tree.value? maxLevels = some (.array items) →
      Extraction.claims? config reply =
        some ((((items.filterMap Value.string?).map Text.trim).filter
          fun text => config.minClaimChars < text.length).map Claim.mk)) ∧
    (∀ members, tree.value? maxLevels = some (.object members) →
      Verification.ofReply claim reply = Verification.ofValue claim (.object members) ∧
      ∀ problem, Verification.ofReply claim reply = .error problem →
        problem ≠ .unreadable ∧
        (Verification.judgedStatus members = .error problem ∨
          Verification.confidence (Json.Members.get? "confidence" members) = .error problem)) ∧
    (tree.value? maxLevels = none →
      (tree.container? = some .items → Extraction.claims? config reply = none) ∧
      (tree.container? = some .members →
        Verification.ofReply claim reply = .error .unreadable)) := by
  have asArray (holds : tree.container? = some .items) :
      Value.read? (Reply.excerpt '[' ']' reply.toList) = tree.value? maxLevels :=
    Reply.read?_excerpt .items whole holds unfenced
  have asObject (holds : tree.container? = some .members) :
      Value.read? (Reply.excerpt '\x7b' '\x7d' reply.toList) = tree.value? maxLevels :=
    Reply.read?_excerpt .members whole holds unfenced
  refine ⟨fun items known => ?_, fun members known => ?_,
    fun refused => ⟨fun holds => ?_, fun holds => ?_⟩⟩
  · rw [Extraction.claims?, asArray (Tree.container?_of_array known), known,
      ← Extraction.filterMap_claim?]
  · have judged : Verification.ofReply claim reply =
        Verification.ofValue claim (.object members) := by
      rw [Verification.ofReply, asObject (Tree.container?_of_object known), known]
    refine ⟨judged, fun problem failed => ?_⟩
    rw [judged] at failed
    have reason := Verification.ofValue_object_error failed
    exact ⟨reason.elim Verification.readable_of_judgedStatus Verification.readable_of_confidence,
      reason⟩
  · rw [Extraction.claims?, asArray holds, refused]
  · rw [Verification.ofReply, asObject holds, refused]

/-- Brackets and backquotes in strings do no harm while no fence is closed. -/
theorem whole_reply_is_read_with_brackets :
    let reply := " [\"] is \x7d or \x60\x60\x60\", 7, \"[\"] "
    (∃ tree, Tree.read? reply.toList = some tree) ∧ Reply.Unfenced reply.toList ∧
      Extraction.claims? { minClaimChars := 2 } reply = some [⟨"] is \x7d or \x60\x60\x60"⟩] := by
  intro reply
  have whole : ∃ tree, Tree.read? reply.toList = some tree ∧ tree.value? maxLevels =
      some (.array [.string "] is \x7d or \x60\x60\x60", .ofNat 7, .string "["]) :=
    ⟨_, by cbv, by cbv⟩
  have unfenced : Reply.Unfenced reply.toList := ⟨by decide +kernel, by decide +kernel⟩
  obtain ⟨tree, read, known⟩ := whole
  refine ⟨⟨tree, read⟩, unfenced, ?_⟩
  rw [(whole_reply_is_read { minClaimChars := 2 } ⟨""⟩ read unfenced).1 _ known]
  cbv

/-- A closed fence inside a string hides the array around it, and the object too. -/
theorem fence_hides_whole_reply :
    let array := "[\"The reply used \x60\x60\x60json fences\x60\x60\x60 everywhere\"]"
    let object := "\x7b\"status\":\"SUPPORTED\",\"evidence\":\"\x60\x60\x60json x\x60\x60\x60\"\x7d"
    (Value.ofString? array =
        some (.array [.string "The reply used \x60\x60\x60json fences\x60\x60\x60 everywhere"]) ∧
      Extraction.claims? {} array = none) ∧
    (∃ members, Value.ofString? object = some (.object members)) ∧
      Verification.ofReply ⟨""⟩ object = .error .unreadable := by
  refine ⟨⟨by cbv, by cbv⟩, ⟨_, by cbv⟩, by cbv⟩

end ClaimAudit
