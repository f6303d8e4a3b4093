import ClaimAudit.Proofs.WrappedReply

/-! Replies that are one fenced block.

The name of a language after the opening fence is skipped with its line. Two kinds of blocks lose
their array. A name that only begins with `json` is found as the fence that names JSON, and what is
left of it stays in the block. A block without a name loses its first line, too, so an array that
begins next to the opening fence needs the closing fence in the same line.
-/

set_option autoImplicit false

namespace ClaimAudit

namespace Reply

open Json (Container Tree isSpace isSpace_of_not_isBlank)

variable {line rest language block text reply : List Char} {tree : Tree} {kind : Container}
  {c : Char}

section Names

def isNameChar (c : Char) : Bool := c.isAlphanum || c = '+' || c = '-' || c = '_'

theorem notMem_of_name (named : ∀ c ∈ language, isNameChar c = true) {mark : Char}
    (foreign : isNameChar mark = false) : mark ∉ language := by
  intro member
  rw [named mark member] at foreign
  cases foreign

theorem isNameChar_opening (kind : Container) : isNameChar kind.opening = false := by
  cases kind <;> decide

theorem isBlank_of_isNameChar (named : isNameChar c = true) : Text.isBlank c = false := by
  have bounds : 0x2B ≤ c.toNat ∧ c.toNat ≤ 0x7A := by
    have known : ((c.isAlphanum = true ∨ c = '+') ∨ c = '-') ∨ c = '_' := by
      simpa [isNameChar] using named
    rcases known with ((letter | rfl) | rfl) | rfl
    · simp only [Char.isAlphanum, Char.isAlpha, Char.isUpper, Char.isLower, Char.isDigit,
        Bool.or_eq_true, Bool.and_eq_true, decide_eq_true_eq, ge_iff_le,
        UInt32.le_iff_toNat_le] at letter
      rcases letter with (⟨low, high⟩ | ⟨low, high⟩) | ⟨low, high⟩
      all_goals exact ⟨le_trans (by decide) low, le_trans high (by decide)⟩
    all_goals decide
  simp [Text.isBlank, Text.within, Text.blankRanges]
  omega

theorem jsonFence_infix_iff (unquoted : '\x60' ∉ language) :
    jsonFence <:+: fence ++ language ↔ ['j', 's', 'o', 'n'] <+: language := by
  -- Without the first backquote there are too few.
  have few : ¬ jsonFence <:+: '\x60' :: '\x60' :: language := by
    intro found
    have count := found.sublist.count_le '\x60'
    rw [List.count_cons_self, List.count_cons_self,
      List.count_eq_zero_of_not_mem unquoted] at count
    exact absurd count (by decide)
  have shape : fence ++ language = '\x60' :: '\x60' :: '\x60' :: language := rfl
  rw [shape, List.infix_cons_iff, or_iff_left few, ← shape, jsonFence,
    List.prefix_append_right_inj]

end Names

section Blocks

theorem splitFirst_opening (opened : List Char) :
    Text.splitFirst fence (fence ++ opened) = some ([], opened) := by
  have nowhere : ¬ fence <:+: [] ++ fence.dropLast := by decide
  exact Text.splitFirst_append opened nowhere

theorem splitFirst_closing (plain : ¬ fence <:+: block) (ends : block.getLast? ≠ some '\x60') :
    Text.splitFirst fence (block ++ fence) = some (block, []) := by
  simpa using splitFirst_fence [] plain ends

theorem fencedBlock?_below_line (unbroken : '\n' ∉ line) (plain : ¬ fence <:+: block)
    (ends : block.getLast? ≠ some '\x60') :
    fencedBlock? (fence ++ (line ++ '\n' :: (block ++ fence))) = some block := by
  simp only [fencedBlock?, splitFirst_opening, afterLanguage, Text.splitFirst_mark _ unbroken,
    splitFirst_closing plain ends, Option.bind_eq_bind, Option.bind_some, Option.pure_def]

theorem fencedBlock?_in_line (unbroken : '\n' ∉ block) (plain : ¬ fence <:+: block)
    (ends : block.getLast? ≠ some '\x60') :
    fencedBlock? (fence ++ (block ++ fence)) = some block := by
  have alone : Text.splitFirst ['\n'] (block ++ fence) = none := by
    rw [Text.splitFirst_eq_none_iff, List.singleton_infix_iff]
    exact List.not_mem_append unbroken (by decide)
  simp only [fencedBlock?, splitFirst_opening, afterLanguage, alone,
    splitFirst_closing plain ends, Option.bind_eq_bind, Option.bind_some, Option.pure_def]

theorem excerpt_of_fencedBlock? (opening closing : Char) (unnamed : ¬ jsonFence <:+: reply)
    (found : fencedBlock? reply = some block) :
    excerpt opening closing reply = Text.trimChars block := by
  rw [excerpt, jsonBlock?_of_absent unnamed, found]

end Blocks

section BelowLine

theorem no_fence_padded (plain : ¬ fence <:+: text) : ¬ fence <:+: text ++ ['\n'] := by
  rwa [Text.infix_append_margin_iff rfl (by decide)]

theorem excerpt_below_name (opening closing : Char) (named : ∀ c ∈ language, isNameChar c = true)
    (other : ¬ ['j', 's', 'o', 'n'] <+: language) (plain : ¬ fence <:+: text) :
    excerpt opening closing (fence ++ (language ++ '\n' :: (text ++ ['\n'] ++ fence))) =
      Text.trimChars (text ++ ['\n']) := by
  have shape : fence ++ (language ++ '\n' :: (text ++ ['\n'] ++ fence)) =
      (fence ++ language) ++ '\n' :: (text ++ '\n' :: fence) := by
    simp only [List.append_assoc, List.cons_append, List.nil_append]
  have unnamed : ¬ jsonFence <:+: fence ++ (language ++ '\n' :: (text ++ ['\n'] ++ fence)) := by
    rw [shape, Text.infix_append_mark_iff (by decide), Text.infix_append_mark_iff (by decide),
      jsonFence_infix_iff (notMem_of_name named (by decide))]
    rintro (found | found | found)
    · exact other found
    · exact no_jsonFence_of_no_fence plain found
    · exact absurd found (by decide)
  exact excerpt_of_fencedBlock? _ _ unnamed (fencedBlock?_below_line
    (notMem_of_name named (by decide)) (no_fence_padded plain) (by simp))

theorem excerpt_below_json {more : List Char} (opening closing : Char)
    (named : ∀ c ∈ more, isNameChar c = true) (plain : ¬ fence <:+: text) :
    excerpt opening closing (jsonFence ++ (more ++ '\n' :: (text ++ ['\n'] ++ fence))) =
      Text.trimChars (more ++ '\n' :: (text ++ ['\n'])) := by
  have unquoted : ¬ fence <:+: more := fun found =>
    notMem_of_name named (by decide) (found.subset (show '\x60' ∈ fence by decide))
  have inside : ¬ fence <:+: more ++ '\n' :: (text ++ ['\n']) := by
    rw [Text.infix_append_mark_iff (by decide), not_or]
    exact ⟨unquoted, no_fence_padded plain⟩
  have ends : (more ++ '\n' :: (text ++ ['\n'])).getLast? ≠ some '\x60' := by
    simp [List.getLast?_append, List.getLast?_cons]
  have shape : jsonFence ++ (more ++ '\n' :: (text ++ ['\n'] ++ fence)) =
      [] ++ jsonFence ++ (more ++ '\n' :: (text ++ ['\n']) ++ fence ++ []) := by
    simp only [List.append_assoc, List.cons_append, List.nil_append, List.append_nil]
  rw [excerpt, shape, jsonBlock?_wrapped [] (by decide) inside ends]

theorem read?_below_name (named : ∀ c ∈ language, isNameChar c = true)
    (other : ¬ ['j', 's', 'o', 'n'] <+: language) (whole : Tree.read? text = some tree)
    (holds : tree.container? = some kind) (plain : ¬ fence <:+: text) :
    Tree.read? (excerpt kind.opening kind.closing
      (fence ++ (language ++ '\n' :: (text ++ ['\n'] ++ fence)))) = some tree := by
  have padded : Tree.read? ([] ++ text ++ ['\n']) = Tree.read? text :=
    Tree.read?_margins (by simp) (by simp [isSpace])
  rw [List.nil_append, whole] at padded
  rw [excerpt_below_name _ _ named other plain]
  exact read?_trimChars padded holds

theorem read?_below_json (whole : Tree.read? text = some tree)
    (holds : tree.container? = some kind) (plain : ¬ fence <:+: text) :
    Tree.read? (excerpt kind.opening kind.closing
      (jsonFence ++ ([] ++ '\n' :: (text ++ ['\n'] ++ fence)))) = some tree := by
  have padded : Tree.read? (['\n'] ++ text ++ ['\n']) = Tree.read? text :=
    Tree.read?_margins (by simp [isSpace]) (by simp [isSpace])
  rw [whole] at padded
  rw [excerpt_below_json _ _ (by simp) plain]
  exact read?_trimChars padded holds

theorem container?_below_longer_name {more : List Char} {other : Tree}
    (named : ∀ d ∈ c :: more, isNameChar d = true) (plain : ¬ fence <:+: text)
    (read : Tree.read? (excerpt kind.opening kind.closing
      (jsonFence ++ (c :: more ++ '\n' :: (text ++ ['\n'] ++ fence)))) = some other) :
    other.container? ≠ some kind := by
  have first := named c List.mem_cons_self
  have visible := isBlank_of_isNameChar first
  rw [excerpt_below_json _ _ named plain, Text.trimChars, List.cons_append,
    Text.trimStart_eq_self_of_head visible] at read
  obtain ⟨others, same⟩ := Text.trimEnd_cons (more ++ '\n' :: (text ++ ['\n'])) visible
  rw [same] at read
  intro holds
  rw [Tree.head_of_read? (isSpace_of_not_isBlank visible) read holds, isNameChar_opening] at first
  cases first

end BelowLine

section Inline

variable (whole : Tree.read? text = some tree) (holds : tree.container? = some kind)
  (plain : ¬ fence <:+: text)

include whole holds plain

theorem no_jsonFence_inline : ¬ jsonFence <:+: fence ++ (text ++ fence) := by
  obtain ⟨lead, inner, trail, rfl, leading, trailing⟩ := Tree.brackets_of_read? whole holds
  have shape : fence ++ (lead ++ kind.opening :: (inner ++ kind.closing :: trail) ++ fence) =
      (fence ++ lead) ++ kind.opening :: (inner ++ kind.closing :: (trail ++ fence)) := by
    simp only [List.append_assoc, List.cons_append]
  have letter : 'j' ∈ jsonFence := by decide
  have foreign (margin : List Char) (spaces : ∀ c ∈ margin, isSpace c = true) : 'j' ∉ margin :=
    not_mem_of_spaces spaces (by decide)
  rw [shape, Text.infix_append_mark_iff (by cases kind <;> decide),
    Text.infix_append_mark_iff (by cases kind <;> decide)]
  rintro (found | found | found)
  · exact List.not_mem_append (by decide) (foreign lead leading) (found.subset letter)
  · refine no_jsonFence_of_no_fence plain (found.trans ?_)
    exact ⟨lead ++ [kind.opening], kind.closing :: trail, by simp⟩
  · exact List.not_mem_append (foreign trail trailing) (by decide) (found.subset letter)

theorem read?_excerpt_inline (unbroken : '\n' ∉ text) :
    Tree.read? (excerpt kind.opening kind.closing (fence ++ (text ++ fence))) = some tree := by
  have found := fencedBlock?_in_line unbroken plain (getLast?_of_read? whole holds)
  rw [excerpt_of_fencedBlock? _ _ (no_jsonFence_inline whole holds plain) found]
  exact read?_trimChars whole holds

end Inline

section Broken

variable (whole : Tree.read? (line ++ '\n' :: rest) = some tree)
  (holds : tree.container? = some kind) (plain : ¬ fence <:+: line ++ '\n' :: rest)
  (unbroken : '\n' ∉ line)

include whole holds plain unbroken

theorem excerpt_inline_broken (opening closing : Char) :
    excerpt opening closing (fence ++ (line ++ '\n' :: rest ++ fence)) = Text.trimChars rest := by
  have below : ¬ fence <:+: rest := fun found =>
    plain (found.trans ⟨line ++ ['\n'], [], by simp⟩)
  have ends : rest.getLast? ≠ some '\x60' := by
    intro last
    refine getLast?_of_read? whole holds ?_
    simp [List.getLast?_append, List.getLast?_cons, last]
  have found := fencedBlock?_below_line unbroken below ends
  rw [excerpt_of_fencedBlock? _ _ (no_jsonFence_inline whole holds plain)]
  rw [List.append_assoc, List.cons_append]
  exact found

theorem read?_excerpt_begins_below (early : kind.opening ∉ line) :
    Tree.read? (excerpt kind.opening kind.closing (fence ++ (line ++ '\n' :: rest ++ fence))) =
      some tree := by
  obtain ⟨lead, inner, trail, same, leading, _⟩ := Tree.brackets_of_read? whole holds
  have front : line <+: lead := by
    rw [← Text.prefix_append_mark_iff early, ← same]
    exact List.prefix_append _ _
  -- So only spaces are skipped.
  have spaces : ∀ c ∈ line ++ ['\n'], isSpace c = true := by
    intro c member
    rcases List.mem_append.mp member with member | member
    · exact leading c (front.subset member)
    · rw [List.mem_singleton.mp member]
      rfl
  have below : Tree.read? (line ++ ['\n'] ++ rest ++ []) = Tree.read? rest :=
    Tree.read?_margins spaces (by simp)
  rw [List.append_nil, List.append_assoc, List.singleton_append, whole] at below
  rw [excerpt_inline_broken whole holds plain unbroken]
  exact read?_trimChars below.symm holds

theorem container?_begins_above (late : kind.opening ∈ line) {other : Tree}
    (read : Tree.read? (excerpt kind.opening kind.closing
      (fence ++ (line ++ '\n' :: rest ++ fence))) = some other) :
    other.container? = none := by
  rw [excerpt_inline_broken whole holds plain unbroken] at read
  exact Tree.container?_below_line_break whole holds late (isSpace_opening kind) read

end Broken

end Reply

open Json (Tree Value maxLevels)

theorem Extraction.claims?_eq_none (config : Config) {reply : String}
    (none_read : ∀ tree, Tree.read? (Reply.excerpt '[' ']' reply.toList) = some tree →
      tree.container? ≠ some .items) : claims? config reply = none := by
  cases found : claims? config reply with
  | none => rfl
  | some claims =>
    obtain ⟨items, read, _⟩ := read?_of_claims? found
    obtain ⟨tree, read, known⟩ := Option.bind_eq_some_iff.mp read
    exact absurd (Tree.container?_of_array known) (none_read tree read)

section Arrays

variable (config : Extraction.Config) {text : String} {tree : Tree}

theorem array_below_name (whole : Tree.read? text.toList = some tree)
    (holds : tree.container? = some .items) (plain : ¬ Reply.fence <:+: text.toList)
    {language : String} (named : ∀ c ∈ language.toList, Reply.isNameChar c = true) :
    Extraction.claims? config
        ("\x60\x60\x60" ++ language ++ "\n" ++ text ++ "\n\x60\x60\x60") =
      if ['j', 's', 'o', 'n'] <+: language.toList ∧ language ≠ "json" then none
      else Extraction.ofValue? config (tree.value? maxLevels) := by
  have shape : ("\x60\x60\x60" ++ language ++ "\n" ++ text ++ "\n\x60\x60\x60").toList =
      Reply.fence ++ (language.toList ++ '\n' :: (text.toList ++ ['\n'] ++ Reply.fence)) := by
    simp only [String.toList_append, List.append_assoc]
    rfl
  by_cases begins : ['j', 's', 'o', 'n'] <+: language.toList
  · obtain ⟨more, known⟩ := begins
    have opened : ("\x60\x60\x60" ++ language ++ "\n" ++ text ++ "\n\x60\x60\x60").toList =
        Reply.jsonFence ++ (more ++ '\n' :: (text.toList ++ ['\n'] ++ Reply.fence)) := by
      rw [shape, ← known, Reply.jsonFence]
      simp only [List.append_assoc]
    -- What the fence that names JSON leaves of the name begins the block.
    cases more with
    | nil =>
      have same : language = "json" := String.toList_inj.mp known.symm
      have read := Reply.read?_below_json whole holds plain
      rw [← opened] at read
      rw [if_neg fun longer => longer.2 same]
      exact Extraction.claims?_of_excerpt config read
    | cons c more =>
      have longer : language ≠ "json" := by
        rintro rfl
        simp at known
      rw [if_pos ⟨⟨_, known⟩, longer⟩]
      apply Extraction.claims?_eq_none
      intro other read
      rw [opened] at read
      have left : ∀ d ∈ c :: more, Reply.isNameChar d = true := fun d member =>
        named d (known ▸ List.mem_append_right _ member)
      have differs : other.container? ≠ some .items :=
        Reply.container?_below_longer_name left plain read
      exact differs
  · have read := Reply.read?_below_name named begins whole holds plain
    rw [← shape] at read
    rw [if_neg fun longer => begins longer.1]
    exact Extraction.claims?_of_excerpt config read

theorem array_next_to_fence (whole : Tree.read? text.toList = some tree)
    (holds : tree.container? = some .items) (plain : ¬ Reply.fence <:+: text.toList) :
    Extraction.claims? config ("\x60\x60\x60" ++ text ++ "\x60\x60\x60") =
      if '\n' ∈ text.toList ∧ '[' ∈ text.toList.takeWhile (· ≠ '\n') then none
      else Extraction.ofValue? config (tree.value? maxLevels) := by
  have shape : ("\x60\x60\x60" ++ text ++ "\x60\x60\x60").toList =
      Reply.fence ++ (text.toList ++ Reply.fence) := by
    simp only [String.toList_append, List.append_assoc]
    rfl
  by_cases broken : '\n' ∈ text.toList
  · obtain ⟨line, rest, same, unbroken⟩ := List.eq_append_cons_of_mem broken
    have first : text.toList.takeWhile (· ≠ '\n') = line := by
      rw [same, List.takeWhile_append_of_pos]
      · simp
      · intro c member
        exact decide_eq_true fun eq => unbroken (eq ▸ member)
    rw [first]
    rw [same] at whole plain shape
    -- The first line is skipped, with the opening bracket if it stands there.
    by_cases late : '[' ∈ line
    · rw [if_pos ⟨broken, late⟩]
      apply Extraction.claims?_eq_none
      intro other read
      rw [shape] at read
      have leaf : other.container? = none :=
        Reply.container?_begins_above whole holds plain unbroken late read
      rw [leaf]
      nofun
    · have read := Reply.read?_excerpt_begins_below whole holds plain unbroken late
      rw [← shape] at read
      rw [if_neg fun both => late both.2]
      exact Extraction.claims?_of_excerpt config read
  · have read := Reply.read?_excerpt_inline whole holds plain broken
    rw [← shape] at read
    rw [if_neg fun both => broken both.1]
    exact Extraction.claims?_of_excerpt config read

end Arrays

/-- An array below the line of the opening fence is read, unless that line holds a name that only
begins with `json`. An array next to the fence is read unless a line ends behind its bracket. -/
theorem fenced_array_is_read (config : Extraction.Config) {text : String} {tree : Tree}
    (whole : Tree.read? text.toList = some tree) (holds : tree.container? = some .items)
    (plain : ¬ Reply.fence <:+: text.toList) :
    (∀ language : String, (∀ c ∈ language.toList, Reply.isNameChar c = true) →
      Extraction.claims? config
          ("\x60\x60\x60" ++ language ++ "\n" ++ text ++ "\n\x60\x60\x60") =
        if ['j', 's', 'o', 'n'] <+: language.toList ∧ language ≠ "json" then none
        else Extraction.ofValue? config (tree.value? maxLevels)) ∧
    Extraction.claims? config ("\x60\x60\x60" ++ text ++ "\x60\x60\x60") =
      if '\n' ∈ text.toList ∧ '[' ∈ text.toList.takeWhile (· ≠ '\n') then none
      else Extraction.ofValue? config (tree.value? maxLevels) :=
  ⟨fun _ named => array_below_name config whole holds plain named,
    array_next_to_fence config whole holds plain⟩

theorem fenced_array_is_read_over_two_lines :
    let text := "[\"Water boils at 100C\",\n7]"
    (∃ tree, Tree.read? text.toList = some tree ∧ tree.container? = some .items) ∧
      ¬ Reply.fence <:+: text.toList ∧ (∀ c ∈ "c++".toList, Reply.isNameChar c = true) ∧
      Extraction.claims? {} ("\x60\x60\x60" ++ "c++" ++ "\n" ++ text ++ "\n\x60\x60\x60") =
        some [⟨"Water boils at 100C"⟩] ∧
      Extraction.claims? {} ("\x60\x60\x60" ++ text ++ "\x60\x60\x60") = none := by
  intro text
  have whole : ∃ tree, Tree.read? text.toList = some tree ∧ tree.container? = some .items ∧
      tree.value? maxLevels = some (.array [.string "Water boils at 100C", .ofNat 7]) :=
    ⟨_, by cbv, by cbv, by cbv⟩
  obtain ⟨tree, read, holds, known⟩ := whole
  have plain : ¬ Reply.fence <:+: text.toList := by decide +kernel
  have named : ∀ c ∈ "c++".toList, Reply.isNameChar c = true := by
    simp [Reply.isNameChar]
  have found := fenced_array_is_read {} read holds plain
  refine ⟨⟨tree, read, holds⟩, plain, named, ?_, ?_⟩
  · rw [found.1 "c++" named, if_neg (by decide), known]
    cbv
  · rw [found.2, if_pos (by decide +kernel)]

/-- A longer name hides an array, and so does a line break in an array next to the fence. -/
theorem fence_line_hides_array :
    Extraction.claims? {} "[\"Water boils at 100C\"]" = some [⟨"Water boils at 100C"⟩] ∧
      Extraction.claims? {} "\x60\x60\x60json5\n[\"Water boils at 100C\"]\n\x60\x60\x60" = none ∧
      Extraction.claims? {} "\x60\x60\x60[\n\"Water boils at 100C\"\n]\x60\x60\x60" = none := by
  decide +kernel

end ClaimAudit
