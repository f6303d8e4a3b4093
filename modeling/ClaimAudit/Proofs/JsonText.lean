import ClaimAudit.Json.Reader

/-! The margins of a JSON text: what stands first and last in the text of a container.

Spaces around a text mean nothing. Between them the text of an array begins and ends
with its brackets, whatever it holds, and so does the text of an object.
-/

set_option autoImplicit false

namespace ClaimAudit.Json

inductive Container where
  | items
  | members
  deriving DecidableEq, Repr

namespace Container

def opening : Container → Char
  | .items => '['
  | .members => '{'

def closing : Container → Char
  | .items => ']'
  | .members => '}'

def opens : Container → Token
  | .items => .openArray
  | .members => .openObject

def closes : Container → Token
  | .items => .closeArray
  | .members => .closeObject

end Container

def Token.isLeaf : Token → Bool
  | .null | .bool _ | .number _ | .string _ => true
  | _ => false

section Scanning

variable {c : Char} {mode : Mode} {text : List Char} {tokens : List Token}

theorem punctuation?_eq_opens {kind : Container} (found : punctuation? c = some kind.opens) :
    c = kind.opening := by
  unfold punctuation? at found
  split at found <;> cases kind <;> first | rfl | cases found

theorem punctuation?_eq_closes {kind : Container} (found : punctuation? c = some kind.closes) :
    c = kind.closing := by
  unfold punctuation? at found
  split at found <;> cases kind <;> first | rfl | cases found

theorem isLeaf_of_wordToken? {word : List Char} {token : Token}
    (found : wordToken? word = some token) : token.isLeaf = true := by
  unfold wordToken? at found
  split at found
  · cases found
    rfl
  · split at found
    · cases found
      rfl
    · split at found
      · cases found
        rfl
      · obtain ⟨_, _, rfl⟩ := Option.map_eq_some_iff.mp found
        rfl

theorem tokens?_lead (text : List Char) {lead : List Char} (spaces : ∀ c ∈ lead, isSpace c = true) :
    tokens? (lead ++ text) = tokens? text := by
  induction lead with
  | nil => rfl
  | cons c lead ih =>
    have space : isSpace c = true := spaces c List.mem_cons_self
    simp only [tokens?, List.cons_append, scan, space, if_true]
    exact ih fun d member => spaces d (List.mem_cons_of_mem c member)

/-- A space at the end changes nothing: it ends a word, and in an unfinished string it
helps nothing. -/
theorem scan_append_space (mode : Mode) (text : List Char) (space : isSpace c = true) :
    scan mode (text ++ [c]) = scan mode text := by
  induction text generalizing mode with
  | nil =>
    have known : c = ' ' ∨ c = '\n' ∨ c = '\t' ∨ c = '\r' := by
      simpa [isSpace, or_assoc] using space
    cases mode with
    | between => simp [scan, space]
    | word letters => cases word : wordToken? letters.reverse <;> simp [scan, space, word]
    | quoted | escape | code =>
      -- Inside a string neither text is finished, and no space continues an escape.
      rcases known with rfl | rfl | rfl | rfl <;> simp [scan, escaped?] <;> rfl
  | cons d text ih => cases mode <;> simp only [List.cons_append, scan, ih]

theorem tokens?_trail {trail : List Char} (spaces : ∀ c ∈ trail, isSpace c = true) :
    tokens? (text ++ trail) = tokens? text := by
  induction trail generalizing text with
  | nil => rw [List.append_nil]
  | cons c trail ih =>
    rw [List.append_cons, ih fun d member => spaces d (List.mem_cons_of_mem c member)]
    exact scan_append_space .between text (spaces c List.mem_cons_self)

/-- What one character can do: it leaves a token unfinished, or it ends one. -/
structure Advances (mode : Mode) (c : Char) (next : Mode) (added : List Token) : Prop where
  starts : mode ≠ .between → (next ≠ .between ∧ added = []) ∨
    ∃ token others, added = token :: others ∧ token.isLeaf = true
  ends : next = .between → isSpace c = true ∨ ∃ front token, added = front ++ [token] ∧
    (punctuation? c = some token ∨ token.isLeaf = true)
  numbers : ∀ n, .number n ∈ added → ∃ word, wordToken? word = some (.number n)

theorem punctuation?_ne_number (c : Char) (n : Option Number) :
    punctuation? c ≠ some (.number n) := by
  unfold punctuation?
  split <;> simp

theorem Advances.inside {next : Mode} (unfinished : next ≠ .between) :
    Advances mode c next [] :=
  ⟨fun _ => .inl ⟨unfinished, rfl⟩, fun finished => absurd finished unfinished, by simp⟩

theorem Advances.mark {token : Token} (known : punctuation? c = some token) :
    Advances .between c .between [token] where
  starts other := absurd rfl other
  ends _ := .inr ⟨[], token, rfl, .inl known⟩
  numbers n member := by
    rw [← List.mem_singleton.mp member] at known
    exact absurd known (punctuation?_ne_number c n)

theorem Advances.word {letters : List Char} {next : Mode} {token : Token} {added : List Token}
    (found : wordToken? letters.reverse = some token)
    (marks : ∀ mark ∈ added, punctuation? c = some mark)
    (ends : next = .between → isSpace c = true ∨ ∃ mark, added = [mark]) :
    Advances (.word letters) c next (token :: added) where
  starts _ := .inr ⟨token, added, rfl, isLeaf_of_wordToken? found⟩
  ends finished := by
    rcases ends finished with space | ⟨mark, rfl⟩
    · exact .inl space
    · exact .inr ⟨[token], mark, rfl, .inl (marks mark (List.mem_singleton_self mark))⟩
  numbers n member := by
    rcases List.mem_cons.mp member with rfl | other
    · exact ⟨_, found⟩
    · exact absurd (marks _ other) (punctuation?_ne_number c n)

def Steps (mode : Mode) (c : Char) (text : List Char) (tokens : List Token) : Prop :=
  ∃ next added rest, Advances mode c next added ∧ scan next text = some rest ∧
    tokens = added ++ rest

theorem Steps.inside {next : Mode} (unfinished : next ≠ .between)
    (read : scan next text = some tokens) : Steps mode c text tokens :=
  ⟨next, [], tokens, .inside unfinished, read, rfl⟩

theorem Steps.word {letters : List Char} {next : Mode} (added : List Token)
    (read : (wordToken? letters.reverse).bind (fun word =>
      (scan next text).bind fun rest => some (word :: (added ++ rest))) = some tokens)
    (marks : ∀ mark ∈ added, punctuation? c = some mark)
    (ends : next = .between → isSpace c = true ∨ ∃ mark, added = [mark]) :
    Steps (.word letters) c text tokens := by
  obtain ⟨token, found, read⟩ := Option.bind_eq_some_iff.mp read
  obtain ⟨rest, scanned, same⟩ := Option.bind_eq_some_iff.mp read
  cases same
  exact ⟨next, token :: added, rest, .word found marks ends, scanned, rfl⟩

-- The scanner is taken apart here only, mode by mode. What is said below of whole texts
-- follows by induction from what one character can do.
theorem steps_between (read : scan .between (c :: text) = some tokens) :
    Steps .between c text tokens := by
  simp only [scan] at read
  split at read
  case isTrue space =>
    exact ⟨_, [], _, ⟨fun other => absurd rfl other, fun _ => .inl space, by simp⟩, read, rfl⟩
  case isFalse =>
    split at read
    · exact .inside (by simp) read
    · split at read
      · rename_i token known
        obtain ⟨rest, scanned, rfl⟩ := Option.map_eq_some_iff.mp read
        exact ⟨_, [token], rest, .mark known, scanned, rfl⟩
      · exact .inside (by simp) read

theorem steps_word {letters : List Char}
    (read : scan (.word letters) (c :: text) = some tokens) :
    Steps (.word letters) c text tokens := by
  simp only [scan] at read
  split at read
  case isTrue space => exact .word [] read (by simp) fun _ => .inl space
  case isFalse =>
    split at read
    · exact .word [] read (by simp) (by simp)
    · split at read
      · rename_i mark known
        exact .word [mark] read (by simp [known]) fun _ => .inr ⟨mark, rfl⟩
      · exact .inside (by simp) read

theorem steps_quoted {pieces : List Piece}
    (read : scan (.quoted pieces) (c :: text) = some tokens) :
    Steps (.quoted pieces) c text tokens := by
  simp only [scan] at read
  split at read
  · obtain ⟨rest, scanned, same⟩ := Option.bind_eq_some_iff.mp read
    cases same
    exact ⟨_, [_], rest, ⟨fun _ => .inr ⟨_, [], rfl, rfl⟩,
      fun _ => .inr ⟨[], _, rfl, .inr rfl⟩, by simp⟩, scanned, rfl⟩
  · split at read
    · exact .inside (by simp) read
    · split at read
      · cases read
      · exact .inside (by simp) read

theorem scan_cons (read : scan mode (c :: text) = some tokens) : Steps mode c text tokens := by
  cases mode with
  | between => exact steps_between read
  | word letters => exact steps_word read
  | quoted pieces => exact steps_quoted read
  | escape pieces =>
    simp only [scan] at read
    split at read
    · exact .inside (by simp) read
    · split at read
      · exact .inside (by simp) read
      · cases read
  | code pieces value digits =>
    simp only [scan] at read
    split at read
    · cases read
    · split at read <;> exact .inside (by simp) read

theorem scan_nil (read : scan mode [] = some tokens) :
    (mode = .between ∧ tokens = []) ∨ ∃ token, tokens = [token] ∧ token.isLeaf = true := by
  cases mode with
  | between =>
    cases read
    exact .inl ⟨rfl, rfl⟩
  | word letters =>
    obtain ⟨token, found, rfl⟩ := Option.map_eq_some_iff.mp read
    exact .inr ⟨token, rfl, isLeaf_of_wordToken? found⟩
  | quoted | escape | code => cases read

theorem word_of_scan (read : scan mode text = some tokens) {n : Option Number}
    (member : .number n ∈ tokens) : ∃ word, wordToken? word = some (.number n) := by
  induction text generalizing mode tokens with
  | nil =>
    cases mode with
    | between =>
      cases read
      cases member
    | word letters =>
      obtain ⟨token, found, rfl⟩ := Option.map_eq_some_iff.mp read
      exact ⟨_, List.mem_singleton.mp member ▸ found⟩
    | quoted | escape | code => cases read
  | cons c text ih =>
    obtain ⟨next, added, rest, advances, scanned, rfl⟩ := scan_cons read
    rcases List.mem_append.mp member with now | later
    · exact advances.numbers n now
    · exact ih scanned later

theorem leaf_of_scan (unfinished : mode ≠ .between) (read : scan mode text = some tokens) :
    ∃ token rest, tokens = token :: rest ∧ token.isLeaf = true := by
  induction text generalizing mode tokens with
  | nil =>
    rcases scan_nil read with ⟨finished, _⟩ | ⟨token, rfl, leaf⟩
    · exact absurd finished unfinished
    · exact ⟨token, [], rfl, leaf⟩
  | cons c text ih =>
    obtain ⟨next, added, rest, advances, scanned, rfl⟩ := scan_cons read
    rcases advances.starts unfinished with ⟨inside, rfl⟩ | ⟨token, others, rfl, leaf⟩
    · exact ih inside scanned
    · exact ⟨token, others ++ rest, rfl, leaf⟩

theorem first_of_tokens? {token : Token} {rest : List Token} (ink : isSpace c = false)
    (read : tokens? (c :: text) = some (token :: rest)) :
    punctuation? c = some token ∨ token.isLeaf = true := by
  have leaf {next : Mode} (unfinished : next ≠ .between)
      (scanned : scan next text = some (token :: rest)) : token.isLeaf = true := by
    obtain ⟨_, _, same, leaf⟩ := leaf_of_scan unfinished scanned
    cases same
    exact leaf
  simp only [tokens?, scan, ink, Bool.false_eq_true, if_false] at read
  split at read
  · exact .inr (leaf (by simp) read)
  · split at read
    · rename_i mark known
      obtain ⟨_, _, same⟩ := Option.map_eq_some_iff.mp read
      cases same
      exact .inl known
    · exact .inr (leaf (by simp) read)

theorem last_of_scan (ink : isSpace c = false) (read : scan mode (text ++ [c]) = some tokens) :
    ∃ front token, tokens = front ++ [token] ∧
      (punctuation? c = some token ∨ token.isLeaf = true) := by
  induction text generalizing mode tokens with
  | nil =>
    obtain ⟨next, added, rest, advances, scanned, rfl⟩ := scan_cons read
    rcases scan_nil scanned with ⟨finished, rfl⟩ | ⟨token, rfl, leaf⟩
    · rcases advances.ends finished with space | ⟨front, token, rfl, known⟩
      · rw [ink] at space
        cases space
      · exact ⟨front, token, List.append_nil _, known⟩
    · exact ⟨added, token, rfl, .inr leaf⟩
  | cons d text ih =>
    obtain ⟨next, added, rest, _, scanned, rfl⟩ := scan_cons read
    obtain ⟨front, token, rfl, known⟩ := ih scanned
    exact ⟨added ++ front, token, (List.append_assoc _ _ _).symm, known⟩

end Scanning

def Tree.container? : Tree → Option Container
  | .array _ => some .items
  | .object _ => some .members
  | _ => none

def Frame.container : Frame → Container
  | .items _ => .items
  | .member _ _ => .members

def outermost? (stack : List Frame) : Option Container := stack.getLast?.map Frame.container

@[simp] theorem outermost?_nil : outermost? [] = none := rfl

@[simp] theorem outermost?_cons (frame : Frame) (stack : List Frame) :
    outermost? (frame :: stack) = some ((outermost? stack).getD frame.container) := by
  cases stack with
  | nil => rfl
  | cons under stack =>
    rw [outermost?, List.getLast?_cons_cons]
    cases found : (under :: stack).getLast? with
    | none => simp at found
    | some last => simp [outermost?, found]

namespace State

variable {state next : State} {token : Token} {kind : Container}

def kind? : State → Option Container
  | .value stack => outermost? stack
  | .firstItem stack => some ((outermost? stack).getD .items)
  | .firstKey stack | .key _ stack | .colon _ _ stack => some ((outermost? stack).getD .members)
  | .after tree stack => (outermost? stack).or tree.container?

theorem kind?_begin {stack : List Frame} (known : outermost? stack = some kind)
    (step : begin stack token = some next) : next.kind? = some kind := by
  cases token <;> cases step <;> simp [kind?, known]

/-- No token changes what the whole value is. -/
theorem kind?_step (known : state.kind? = some kind) (step : state.step token = some next) :
    next.kind? = some kind := by
  unfold State.step at step
  split at step
  · exact kind?_begin known step
  · cases step
    simpa [kind?, Tree.container?, Option.or_some] using known
  · exact kind?_begin (by simpa [kind?, Frame.container] using known) step
  all_goals cases step <;> simpa [kind?, Frame.container, Tree.container?] using known

theorem kind?_run {tokens : List Token} (known : state.kind? = some kind)
    (ran : state.run tokens = some next) : next.kind? = some kind := by
  induction tokens generalizing state with
  | nil =>
    cases ran
    exact known
  | cons token tokens ih =>
    obtain ⟨between, stepped, rest⟩ := Option.bind_eq_some_iff.mp ran
    exact ih (kind?_step known stepped) rest

theorem run_append (state : State) (first rest : List Token) :
    state.run (first ++ rest) = (state.run first).bind (·.run rest) := by
  induction first generalizing state with
  | nil => rfl
  | cons token first ih =>
    simp only [List.cons_append, run, Option.bind_assoc]
    exact Option.bind_congr fun between _ => ih between

theorem eq_of_finished? {tree : Tree} (finished : state.finished? = some tree) :
    state = .after tree [] := by
  unfold finished? at finished
  split at finished
  · cases finished
    rfl
  · cases finished

theorem eq_opens_of_run {tokens : List Token} {tree : Tree}
    (ran : (value []).run (token :: tokens) = some (.after tree []))
    (holds : tree.container? = some kind) : token = kind.opens := by
  obtain ⟨begun, stepped, rest⟩ := Option.bind_eq_some_iff.mp ran
  have settled {other : Container} (known : begun.kind? = some other) : other = kind := by
    have final := kind?_run known rest
    rw [kind?, outermost?_nil, Option.none_or, holds] at final
    exact (Option.some.inj final).symm
  cases token with
  | openArray =>
    cases stepped
    rw [← settled rfl]
    rfl
  | openObject =>
    cases stepped
    rw [← settled rfl]
    rfl
  | null | bool | number | string =>
    -- A leaf would be the whole value: no token may follow it, and it holds nothing.
    cases stepped
    cases tokens with
    | nil =>
      cases rest
      cases holds
    | cons token tokens => cases rest
  | closeArray | closeObject | comma | colon => cases stepped

theorem eq_closes_of_step {tree : Tree} (step : state.step token = some (.after tree []))
    (holds : tree.container? = some kind) : token = kind.closes := by
  have leafless {stack : List Frame} (begun : begin stack token = some (.after tree [])) :
      False := by
    cases token <;> cases begun <;> cases holds
  -- Containers are completed by four transitions; the others leave a frame or a leaf.
  unfold State.step at step
  split at step
  case h_2 | h_4 | h_9 | h_11 =>
    cases step
    cases holds
    rfl
  case h_1 | h_3 => exact (leafless step).elim
  all_goals cases step

end State

theorem exists_first_ink {text : List Char} {c : Char} (member : c ∈ text)
    (ink : isSpace c = false) :
    ∃ lead d rest, text = lead ++ d :: rest ∧ (∀ x ∈ lead, isSpace x = true) ∧
      isSpace d = false := by
  have present : (text.find? fun x => !isSpace x).isSome = true :=
    List.find?_isSome.mpr ⟨c, member, by rw [ink]; rfl⟩
  obtain ⟨d, found⟩ := Option.isSome_iff_exists.mp present
  obtain ⟨visible, lead, rest, same, spaces⟩ := List.find?_eq_some_iff_append.mp found
  exact ⟨lead, d, rest, same, by simpa using spaces, by simpa using visible⟩

theorem exists_last_ink {text : List Char} {c : Char} (member : c ∈ text)
    (ink : isSpace c = false) :
    ∃ front d trail, text = front ++ d :: trail ∧ (∀ x ∈ trail, isSpace x = true) ∧
      isSpace d = false := by
  obtain ⟨trail, d, front, same, spaces, visible⟩ :=
    exists_first_ink (List.mem_reverse.mpr member) ink
  refine ⟨front.reverse, d, trail.reverse, ?_, by simpa using spaces, visible⟩
  rw [← List.reverse_reverse text, same]
  simp

theorem Container.opening_ne_closing (kind : Container) : kind.opening ≠ kind.closing := by
  cases kind <;> decide

theorem Container.eq_opening {kind : Container} {c : Char}
    (known : punctuation? c = some kind.opens ∨ kind.opens.isLeaf = true) : c = kind.opening := by
  rcases known with known | leaf
  · exact punctuation?_eq_opens known
  · cases kind <;> cases leaf

theorem Container.eq_closing {kind : Container} {c : Char}
    (known : punctuation? c = some kind.closes ∨ kind.closes.isLeaf = true) :
    c = kind.closing := by
  rcases known with known | leaf
  · exact punctuation?_eq_closes known
  · cases kind <;> cases leaf

namespace Tree

variable {text : List Char} {c : Char} {tree : Tree} {kind : Container}

theorem run_of_read? (read : Tree.read? text = some tree) :
    ∃ tokens, tokens? text = some tokens ∧
      (State.value []).run tokens = some (.after tree []) := by
  obtain ⟨tokens, scanned, read⟩ := Option.bind_eq_some_iff.mp read
  obtain ⟨state, ran, finished⟩ := Option.bind_eq_some_iff.mp read
  rw [State.eq_of_finished? finished] at ran
  exact ⟨tokens, scanned, ran⟩

/-- Without the spaces around it a text reads the same. -/
theorem read?_margins {lead trail : List Char} (leading : ∀ c ∈ lead, isSpace c = true)
    (trailing : ∀ c ∈ trail, isSpace c = true) :
    Tree.read? (lead ++ text ++ trail) = Tree.read? text := by
  rw [Tree.read?, tokens?_trail trailing, tokens?_lead _ leading, Tree.read?]

theorem exists_ink_of_read? (read : Tree.read? text = some tree) :
    ∃ c ∈ text, isSpace c = false := by
  obtain ⟨tokens, scanned, ran⟩ := run_of_read? read
  cases blank : text.all isSpace with
  | false => simpa using blank
  | true =>
    have empty := tokens?_lead [] (List.all_eq_true.mp blank)
    rw [List.append_nil, scanned] at empty
    cases empty
    cases ran

theorem head_of_read? (ink : isSpace c = false) (read : Tree.read? (c :: text) = some tree)
    (holds : tree.container? = some kind) : c = kind.opening := by
  obtain ⟨tokens, scanned, ran⟩ := run_of_read? read
  cases tokens with
  | nil => cases ran
  | cons token tokens =>
    have opens := State.eq_opens_of_run ran holds
    subst opens
    exact Container.eq_opening (first_of_tokens? ink scanned)

theorem last_of_read? (ink : isSpace c = false) (read : Tree.read? (text ++ [c]) = some tree)
    (holds : tree.container? = some kind) : c = kind.closing := by
  obtain ⟨tokens, scanned, ran⟩ := run_of_read? read
  obtain ⟨before, token, rfl, known⟩ := last_of_scan ink scanned
  rw [State.run_append] at ran
  obtain ⟨between, _, stepped⟩ := Option.bind_eq_some_iff.mp ran
  obtain ⟨_, stepped, final⟩ := Option.bind_eq_some_iff.mp stepped
  cases final
  have closes := State.eq_closes_of_step stepped holds
  subst closes
  exact Container.eq_closing known

/-- Between the spaces around it the text of a container is what its brackets enclose. -/
theorem brackets_of_read? (read : Tree.read? text = some tree)
    (holds : tree.container? = some kind) :
    ∃ lead inner trail, text = lead ++ kind.opening :: (inner ++ kind.closing :: trail) ∧
      (∀ c ∈ lead, isSpace c = true) ∧ (∀ c ∈ trail, isSpace c = true) := by
  obtain ⟨c, member, ink⟩ := exists_ink_of_read? read
  obtain ⟨lead, c, rest, rfl, leading, ink⟩ := exists_first_ink member ink
  have foremost : c ∈ c :: rest := List.mem_cons_self
  obtain ⟨front, d, trail, same, trailing, visible⟩ := exists_last_ink foremost ink
  have core : Tree.read? (front ++ [d]) = some tree := by
    rw [← read, same, ← read?_margins leading trailing]
    simp only [List.append_assoc, List.singleton_append]
  have last : d = kind.closing := last_of_read? visible core holds
  -- The brackets are different characters, so the text between them is not cut short.
  cases front with
  | nil =>
    cases same
    exact absurd ((head_of_read? ink core holds).symm.trans last) kind.opening_ne_closing
  | cons e inner =>
    obtain ⟨rfl, rest_eq⟩ := List.cons.inj (same.trans List.cons_append)
    have first : c = kind.opening := head_of_read? ink core holds
    exact ⟨lead, inner, trail, by rw [rest_eq, first, last], leading, trailing⟩

end Tree

end ClaimAudit.Json
