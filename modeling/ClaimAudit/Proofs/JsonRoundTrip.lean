import ClaimAudit.Json.Reader
import ClaimAudit.Json.Writer
import Mathlib.Data.List.TakeWhile

/-! Reading back what was written.

The text of a value is scanned into the tokens of the value, and these are read as the tree
that spells it, however it is nested and whatever its strings contain. Only a number may come
back changed, since the digits of a literal are read with a rounded operation; so what is said
of a value supposes that its own numbers come back. Whole numbers of 64 bits always do.
-/

set_option autoImplicit false

namespace ClaimAudit.Json

/-- The literal that is written for a number stands for this number. -/
def Number.Survives (n : Number) : Prop :=
  ∃ text literal, n.chars? = some text ∧ Literal.ofChars? text = some literal ∧
    literal.number? = some n

mutual

def Value.numbers : Value → List Number
  | .null | .bool _ | .string _ => []
  | .number n => [n]
  | .array items => itemNumbers items
  | .object members => memberNumbers members

def itemNumbers : List Value → List Number
  | [] => []
  | item :: rest => item.numbers ++ itemNumbers rest

def memberNumbers : List (String × Value) → List Number
  | [] => []
  | (_, item) :: rest => item.numbers ++ memberNumbers rest

end

mutual

def Value.depth : Value → Nat
  | .null | .bool _ | .number _ | .string _ => 0
  | .array items => itemsDepth items + 1
  | .object members => membersDepth members + 1

def itemsDepth : List Value → Nat
  | [] => 0
  | item :: rest => max item.depth (itemsDepth rest)

def membersDepth : List (String × Value) → Nat
  | [] => 0
  | (_, item) :: rest => max item.depth (membersDepth rest)

end

mutual

/-- The keys of every object in a value increase. So an object is a map, in the one form that
such a map has as a list. -/
def Value.Ordered : Value → Prop
  | .null | .bool _ | .number _ | .string _ => True
  | .array items => ItemsOrdered items
  | .object members => (members.map (·.1)).Pairwise (· < ·) ∧ MembersOrdered members

def ItemsOrdered : List Value → Prop
  | [] => True
  | item :: rest => item.Ordered ∧ ItemsOrdered rest

def MembersOrdered : List (String × Value) → Prop
  | [] => True
  | (_, item) :: rest => item.Ordered ∧ MembersOrdered rest

end

mutual

def Value.tokens : Value → List Token
  | .null => [.null]
  | .bool b => [.bool b]
  | .number n => [.number (some n)]
  | .string s => [.string (some s)]
  | .array [] => [.openArray, .closeArray]
  | .array (item :: rest) => .openArray :: (item.tokens ++ itemsTokens rest)
  | .object [] => [.openObject, .closeObject]
  | .object ((key, item) :: rest) =>
    .openObject :: .string (some key) :: .colon :: (item.tokens ++ membersTokens rest)

def itemsTokens : List Value → List Token
  | [] => [.closeArray]
  | item :: rest => .comma :: (item.tokens ++ itemsTokens rest)

def membersTokens : List (String × Value) → List Token
  | [] => [.closeObject]
  | (key, item) :: rest =>
    .comma :: .string (some key) :: .colon :: (item.tokens ++ membersTokens rest)

end

section Words

variable {word text : List Char} {c : Char}

/-- A character that neither ends a word nor starts a string. -/
def Inner (c : Char) : Prop := isSpace c = false ∧ c ≠ '"' ∧ punctuation? c = none

instance (c : Char) : Decidable (Inner c) := inferInstanceAs (Decidable (_ ∧ _ ∧ _))

-- A bounded check: `∀ c ∈ word` alone could be decided by going through all characters there are.
theorem inner_of_all (letters : word.all (fun c => decide (Inner c)) = true) :
    ∀ c ∈ word, Inner c :=
  fun c member => of_decide_eq_true (List.all_eq_true.mp letters c member)

/-- A text that a word may stand in front of. -/
def Delimits (text : List Char) : Prop :=
  text = [] ∨ ∃ c token rest, text = c :: rest ∧ isSpace c = false ∧ c ≠ '"' ∧
    punctuation? c = some token

theorem scan_word (letters : List Char) (inner : ∀ c ∈ word, Inner c) :
    scan (.word letters) (word ++ text) = scan (.word (word.reverse ++ letters)) text := by
  induction word generalizing letters with
  | nil => rfl
  | cons c word ih =>
    obtain ⟨ink, unquoted, plain⟩ := inner c List.mem_cons_self
    simp only [List.cons_append, scan, ink, unquoted, plain, if_false, Bool.false_eq_true]
    rw [ih (c :: letters) fun d member => inner d (List.mem_cons_of_mem c member),
      List.reverse_cons, List.append_assoc, List.singleton_append]

/-- A word is one token, which ends where punctuation follows. -/
theorem scan_between_word {token : Token} (filled : word ≠ []) (inner : ∀ c ∈ word, Inner c)
    (found : wordToken? word = some token) (ends : Delimits text) :
    scan .between (word ++ text) = (scan .between text).map (token :: ·) := by
  obtain ⟨c, rest, rfl⟩ := List.exists_cons_of_ne_nil filled
  obtain ⟨ink, unquoted, plain⟩ := inner c List.mem_cons_self
  simp only [List.cons_append, scan, ink, unquoted, plain, if_false, Bool.false_eq_true]
  rw [scan_word [c] fun d member => inner d (List.mem_cons_of_mem c member)]
  have spelled : wordToken? (rest.reverse ++ [c]).reverse = some token := by simpa using found
  rcases ends with rfl | ⟨d, mark, others, rfl, ink, unquoted, known⟩
  · simp only [scan, spelled, Option.map_some]
  · simp only [scan, ink, unquoted, known, spelled, if_false, Bool.false_eq_true]
    cases scan .between others <;> rfl

def Numeral (c : Char) : Prop := c.isDigit = true ∨ c ∈ ['-', '+', '.', 'e', 'E']

theorem Numeral.inner (numeral : Numeral c) : Inner c := by
  rcases numeral with digit | sign
  · rw [Char.isDigit_iff_toNat] at digit
    have differ : ∀ d : Char, d.toNat < '0'.toNat ∨ '9'.toNat < d.toNat → c ≠ d := by
      rintro d outside rfl
      omega
    have unpunctuated : punctuation? c = none := by
      unfold punctuation?
      split <;> first | rfl | exact absurd rfl (differ _ (by decide))
    refine ⟨?_, differ '"' (by decide), unpunctuated⟩
    simp [isSpace, differ ' ' (by decide), differ '\n' (by decide), differ '\t' (by decide),
      differ '\r' (by decide)]
  · simp only [List.mem_cons, List.not_mem_nil, or_false] at sign
    rcases sign with rfl | rfl | rfl | rfl | rfl <;> exact ⟨rfl, by decide, rfl⟩

theorem numeral_cons {d : Char} (first : Numeral d) (rest : ∀ c ∈ text, Numeral c) :
    ∀ c ∈ d :: text, Numeral c := by
  intro c member
  rcases List.mem_cons.mp member with rfl | inside
  · exact first
  · exact rest c inside

theorem numeral_of_all (digits : text.all Char.isDigit = true) : ∀ c ∈ text, Numeral c :=
  fun c member => .inl (List.all_eq_true.mp digits c member)

theorem numeral_of_signed? {signed : Bool × List Char} (read : Number.signed? text = some signed) :
    ∀ c ∈ text, Numeral c := by
  unfold Number.signed? at read
  split at read
  · split at read
    · rename_i digits
      exact numeral_cons (.inr (by decide)) (numeral_of_all digits.2)
    · cases read
  · split at read
    · rename_i digits
      exact numeral_cons (.inr (by decide)) (numeral_of_all digits.2)
    · cases read
  · split at read
    · rename_i digits
      exact numeral_of_all digits.2
    · cases read

theorem numeral_of_exponent? {exponent : Int} (read : Number.exponent? text = some exponent) :
    ∀ c ∈ text, Numeral c := by
  cases text with
  | nil => simp
  | cons e digits =>
    simp only [Number.exponent?] at read
    split at read
    · rename_i marked
      obtain ⟨_, signed, _⟩ := Option.map_eq_some_iff.mp read
      refine numeral_cons ?_ (numeral_of_signed? signed)
      rcases marked with rfl | rfl <;> exact .inr (by decide)
    · cases read

theorem numeral_of_dropWhile (rest : ∀ c ∈ text.dropWhile Char.isDigit, Numeral c) :
    ∀ c ∈ text, Numeral c := by
  intro c member
  rw [← List.takeWhile_append_dropWhile (p := Char.isDigit) (l := text)] at member
  rcases List.mem_append.mp member with digit | later
  · exact .inl (List.mem_takeWhile_imp digit)
  · exact rest c later

theorem Literal.numeral_of_ofChars? {literal : Literal}
    (read : Literal.ofChars? text = some literal) : text ≠ [] ∧ ∀ c ∈ text, Numeral c := by
  unfold Literal.ofChars? at read
  split at read
  rename_i negative cs same
  dsimp only at read
  split at read
  · cases read
  · rename_i whole
    have filled : cs ≠ [] := fun nil => whole (.inl (by rw [nil]; rfl))
    have unsigned : ∀ c ∈ cs, Numeral c := by
      refine numeral_of_dropWhile ?_
      split at read
      · rename_i fraction point
        rw [point]
        refine numeral_cons (.inr (by decide)) (numeral_of_dropWhile ?_)
        split at read
        · cases read
        · split at read
          · rename_i nil
            simp [nil]
          · obtain ⟨_, exponent, _⟩ := Option.map_eq_some_iff.mp read
            exact numeral_of_exponent? exponent
      · rename_i nil
        simp [nil]
      · obtain ⟨_, exponent, _⟩ := Option.map_eq_some_iff.mp read
        exact numeral_of_exponent? exponent
    split at same
    · cases same
      exact ⟨List.cons_ne_nil _ _, numeral_cons (.inr (by decide)) unsigned⟩
    · cases same
      exact ⟨filled, unsigned⟩

theorem wordToken?_of_literal {literal : Literal} (read : Literal.ofChars? text = some literal) :
    wordToken? text = some (.number literal.number?) := by
  have unnamed : text ≠ ['n', 'u', 'l', 'l'] ∧ text ≠ ['t', 'r', 'u', 'e'] ∧
      text ≠ ['f', 'a', 'l', 's', 'e'] := by
    refine ⟨?_, ?_, ?_⟩ <;> rintro rfl <;> cases read
  simp only [wordToken?, unnamed.1, unnamed.2.1, unnamed.2.2, if_false, read, Option.map_some]

theorem scan_number {n : Number} (survives : n.Survives) (ends : Delimits text) :
    scan .between (n.chars?.getD nullChars ++ text) =
      (scan .between text).map (.number (some n) :: ·) := by
  obtain ⟨word, literal, written, read, meant⟩ := survives
  obtain ⟨filled, numeral⟩ := Literal.numeral_of_ofChars? read
  have found := wordToken?_of_literal read
  rw [meant] at found
  rw [written, Option.getD_some]
  exact scan_between_word filled (fun c member => (numeral c member).inner) found ends

end Words

section Strings

def writtenPiece (c : Char) : Piece :=
  if c.toNat < 0x20 ∧ c ∉ ['\x08', '\x0c', '\n', '\r', '\t'] then .unit c.toNat else .char c

theorem scan_fourHex {n : Nat} (small : n < 0x10000) (pieces : List Piece) (text : List Char) :
    scan (.code pieces 0 0) (fourHex n ++ text) = scan (.quoted (.unit n :: pieces)) text := by
  have digit (d : Nat) : Text.hexDigit? (d % 16).digitChar = some (d % 16) :=
    Text.hexDigit?_digitChar (Nat.mod_lt d (by decide))
  have value : (((0 * 16 + n / 4096 % 16) * 16 + n / 256 % 16) * 16 + n / 16 % 16) * 16 + n % 16 =
      n := by omega
  simp only [fourHex, List.map_cons, List.map_nil, List.cons_append, List.nil_append, scan, digit,
    value, if_true, if_false, Nat.reduceEqDiff, Nat.reduceAdd]

theorem scan_escapedChar (c : Char) (pieces : List Piece) (text : List Char) :
    scan (.quoted pieces) (escapedChar c ++ text) =
      scan (.quoted (writtenPiece c :: pieces)) text := by
  unfold escapedChar
  split
  case h_8 quote backslash b f n r t =>
    have plain : c ∉ ['\x08', '\x0c', '\n', '\r', '\t'] := by
      simpa using ⟨b, f, n, r, t⟩
    by_cases control : c.toNat < 0x20
    · rw [if_pos control, writtenPiece, if_pos ⟨control, plain⟩]
      exact scan_fourHex (Nat.lt_trans control (by decide)) pieces text
    · rw [if_neg control, writtenPiece, if_neg fun both => control both.1]
      have unquoted : c ≠ '"' := quote
      have unescaped : c ≠ '\\' := backslash
      simp [scan, unquoted, unescaped, control]
  all_goals rfl

/-- A code unit below the surrogates is a character, whatever comes next. -/
theorem charsOfPieces?_unit {n : Nat} (low : n < 0xD800) (pieces : List Piece) :
    charsOfPieces? (.unit n :: pieces) = (charsOfPieces? pieces).map (Char.ofNat n :: ·) := by
  have high : ¬ 0xD800 ≤ n := by omega
  have paired : ¬ 0xDC00 ≤ n := by omega
  cases pieces with
  | nil => simp [charsOfPieces?, high]
  | cons piece pieces => cases piece <;> simp [charsOfPieces?, high, paired]

theorem charsOfPieces?_written (cs : List Char) :
    charsOfPieces? (cs.map writtenPiece) = some cs := by
  induction cs with
  | nil => rfl
  | cons c cs ih =>
    rw [List.map_cons, writtenPiece]
    split
    · rename_i control
      rw [charsOfPieces?_unit (by omega), ih, Char.ofNat_toNat]
      rfl
    · simp only [charsOfPieces?, ih, Option.map_some]

theorem scan_quoted (cs text : List Char) (pieces : List Piece) :
    scan (.quoted pieces) (cs.flatMap escapedChar ++ text) =
      scan (.quoted ((cs.map writtenPiece).reverse ++ pieces)) text := by
  induction cs generalizing pieces with
  | nil => rfl
  | cons c cs ih =>
    rw [List.flatMap_cons, List.append_assoc, scan_escapedChar, ih, List.map_cons,
      List.reverse_cons, List.append_assoc, List.singleton_append]

theorem scan_stringChars (s : String) (text : List Char) :
    scan .between (stringChars s ++ text) =
      (scan .between text).map (.string (some s) :: ·) := by
  have opened : isSpace '"' = false := rfl
  simp only [stringChars, List.cons_append, scan, opened, if_true, Bool.false_eq_true, if_false]
  rw [List.append_assoc, scan_quoted, List.append_nil, List.singleton_append]
  simp only [scan, if_true, List.reverse_reverse, charsOfPieces?_written]
  cases scan .between text <;> simp

end Strings

section Values

variable {text : List Char}

theorem delimits_itemsChars (items : List Value) : Delimits (itemsChars items ++ text) := by
  cases items with
  | nil => exact .inr ⟨']', .closeArray, _, rfl, rfl, by decide, rfl⟩
  | cons item rest => exact .inr ⟨',', .comma, _, rfl, rfl, by decide, rfl⟩

theorem delimits_membersChars (members : List (String × Value)) :
    Delimits (membersChars members ++ text) := by
  cases members with
  | nil => exact .inr ⟨'}', .closeObject, _, rfl, rfl, by decide, rfl⟩
  | cons member rest => exact .inr ⟨',', .comma, _, rfl, rfl, by decide, rfl⟩

theorem scan_punctuation {c : Char} {token : Token} (known : punctuation? c = some token)
    (ink : isSpace c = false) (unquoted : c ≠ '"') (text : List Char) :
    scan .between (c :: text) = (scan .between text).map (token :: ·) := by
  simp only [scan, ink, unquoted, known, if_false, Bool.false_eq_true]

-- The text of a value is scanned into its tokens: one lemma for each kind of text that the
-- writer has a function for.
mutual

theorem scan_chars (text : List Char) : (v : Value) → (∀ n ∈ v.numbers, n.Survives) →
    Delimits text → scan .between (v.chars ++ text) = (scan .between text).map (v.tokens ++ ·)
  | .null, _, ends => by
    rw [Value.chars, Value.tokens]
    exact scan_between_word (by decide) (inner_of_all (by decide)) rfl ends
  | .bool true, _, ends => by
    rw [Value.chars, Value.tokens]
    exact scan_between_word (by decide) (inner_of_all (by decide)) rfl ends
  | .bool false, _, ends => by
    rw [Value.chars, Value.tokens]
    exact scan_between_word (by decide) (inner_of_all (by decide)) rfl ends
  | .number n, survive, ends => by
    rw [Value.chars, Value.tokens]
    exact scan_number (survive n (by simp [Value.numbers])) ends
  | .string s, _, _ => by
    rw [Value.chars, Value.tokens]
    exact scan_stringChars s text
  | .array [], _, _ => by
    simp only [Value.chars, Value.tokens, List.cons_append, List.nil_append]
    rw [scan_punctuation rfl rfl (by decide), scan_punctuation rfl rfl (by decide), Option.map_map]
    rfl
  | .array (item :: rest), survive, _ => by
    -- Punctuation follows the item, so a word that it ends with is complete.
    simp only [Value.numbers, itemNumbers, List.forall_mem_append] at survive
    simp only [Value.chars, Value.tokens, List.cons_append, List.append_assoc]
    rw [scan_punctuation rfl rfl (by decide),
      scan_chars _ item survive.1 (delimits_itemsChars rest), scan_itemsChars text rest survive.2,
      Option.map_map, Option.map_map]
    rfl
  | .object [], _, _ => by
    simp only [Value.chars, Value.tokens, List.cons_append, List.nil_append]
    rw [scan_punctuation rfl rfl (by decide), scan_punctuation rfl rfl (by decide), Option.map_map]
    rfl
  | .object ((key, item) :: rest), survive, _ => by
    simp only [Value.numbers, memberNumbers, List.forall_mem_append] at survive
    simp only [Value.chars, Value.tokens, List.cons_append, List.append_assoc]
    rw [scan_punctuation rfl rfl (by decide), scan_stringChars,
      scan_punctuation rfl rfl (by decide),
      scan_chars _ item survive.1 (delimits_membersChars rest),
      scan_membersChars text rest survive.2, Option.map_map, Option.map_map, Option.map_map,
      Option.map_map]
    rfl

theorem scan_itemsChars (text : List Char) : (items : List Value) →
    (∀ n ∈ itemNumbers items, n.Survives) →
      scan .between (itemsChars items ++ text) =
        (scan .between text).map (itemsTokens items ++ ·)
  | [], _ => by
    simp only [itemsChars, itemsTokens, List.cons_append, List.nil_append]
    exact scan_punctuation rfl rfl (by decide) text
  | item :: rest, survive => by
    simp only [itemNumbers, List.forall_mem_append] at survive
    simp only [itemsChars, itemsTokens, List.cons_append, List.append_assoc]
    rw [scan_punctuation rfl rfl (by decide),
      scan_chars _ item survive.1 (delimits_itemsChars rest), scan_itemsChars text rest survive.2,
      Option.map_map, Option.map_map]
    rfl

theorem scan_membersChars (text : List Char) : (members : List (String × Value)) →
    (∀ n ∈ memberNumbers members, n.Survives) →
      scan .between (membersChars members ++ text) =
        (scan .between text).map (membersTokens members ++ ·)
  | [], _ => by
    simp only [membersChars, membersTokens, List.cons_append, List.nil_append]
    exact scan_punctuation rfl rfl (by decide) text
  | (key, item) :: rest, survive => by
    simp only [memberNumbers, List.forall_mem_append] at survive
    simp only [membersChars, membersTokens, List.cons_append, List.append_assoc]
    rw [scan_punctuation rfl rfl (by decide), scan_stringChars,
      scan_punctuation rfl rfl (by decide),
      scan_chars _ item survive.1 (delimits_membersChars rest),
      scan_membersChars text rest survive.2, Option.map_map, Option.map_map, Option.map_map,
      Option.map_map]
    rfl

end

/-- An item may be the first of an array, where the array might have ended instead. -/
theorem run_firstItem (stack : List Frame) (item : Value) (tokens : List Token) :
    (State.firstItem stack).run (item.tokens ++ tokens) =
      (State.value (.items [] :: stack)).run (item.tokens ++ tokens) := by
  unfold Value.tokens
  split <;> rfl

mutual

theorem run_tokens (stack : List Frame) (tokens : List Token) : (v : Value) →
    (State.value stack).run (v.tokens ++ tokens) = (State.after v.tree stack).run tokens
  | .null | .bool _ | .number _ | .string _ | .array [] | .object [] => by
    simp only [Value.tokens, Value.tree, trees, memberTrees]
    rfl
  | .array (item :: rest) => by
    simp only [Value.tokens, Value.tree, trees, List.cons_append, List.append_assoc]
    show (State.firstItem stack).run _ = _
    rw [run_firstItem, run_tokens _ _ item, run_itemsTokens]
    rfl
  | .object ((key, item) :: rest) => by
    simp only [Value.tokens, Value.tree, memberTrees, List.cons_append, List.append_assoc]
    show (State.value (.member [] (some key) :: stack)).run _ = _
    rw [run_tokens _ _ item, run_membersTokens]
    rfl

theorem run_itemsTokens (stack : List Frame) (tokens : List Token) (tree : Tree)
    (read : List Tree) : (items : List Value) →
    (State.after tree (.items read :: stack)).run (itemsTokens items ++ tokens) =
      (State.after (.array (read.reverse ++ tree :: trees items)) stack).run tokens
  | [] => by
    simp only [itemsTokens, trees]
    show (State.after (.array (tree :: read).reverse) stack).run tokens = _
    rw [List.reverse_cons]
  | item :: rest => by
    simp only [itemsTokens, trees, List.cons_append, List.append_assoc]
    show (State.value (.items (tree :: read) :: stack)).run _ = _
    rw [run_tokens _ _ item, run_itemsTokens _ _ _ _ rest, List.reverse_cons, List.append_assoc,
      List.singleton_append]

theorem run_membersTokens (stack : List Frame) (tokens : List Token) (tree : Tree)
    (key : Option String) (read : List (Option String × Tree)) :
    (members : List (String × Value)) →
    (State.after tree (.member read key :: stack)).run (membersTokens members ++ tokens) =
      (State.after (.object (read.reverse ++ (key, tree) :: memberTrees members)) stack).run tokens
  | [] => by
    simp only [membersTokens, memberTrees]
    show (State.after (.object ((key, tree) :: read).reverse) stack).run tokens = _
    rw [List.reverse_cons]
  | (other, item) :: rest => by
    simp only [membersTokens, memberTrees, List.cons_append, List.append_assoc]
    show (State.value (.member ((key, tree) :: read) (some other) :: stack)).run _ = _
    rw [run_tokens _ _ item, run_membersTokens _ _ _ _ _ rest, List.reverse_cons,
      List.append_assoc, List.singleton_append]

end

/-- The text of a value is read as the tree that spells it. -/
theorem read?_chars {v : Value} (survive : ∀ n ∈ v.numbers, n.Survives) :
    Tree.read? v.chars = some v.tree := by
  have scanned : tokens? v.chars = some v.tokens := by
    have whole := scan_chars [] v survive (.inl rfl)
    rw [List.append_nil] at whole
    rw [tokens?, whole]
    simp only [scan, Option.map_some, List.append_nil]
  have ran : (State.value []).run v.tokens = some (.after v.tree []) := by
    have whole := run_tokens [] [] v
    rwa [List.append_nil] at whole
  simp only [Tree.read?, scanned, ran, bind, Option.bind_some]
  rfl

end Values

section Nesting

theorem Members.set_last {key : String} {value : Value} {members : Members}
    (earlier : ∀ k ∈ members.map (·.1), k < key) :
    Members.set key value members = members ++ [(key, value)] := by
  induction members with
  | nil => rfl
  | cons member rest ih =>
    obtain ⟨k, v⟩ := member
    obtain ⟨first, others⟩ := List.forall_mem_cons.mp earlier
    rw [Members.set, if_neg (String.lt_asymm first), if_pos first, ih others, List.cons_append]

theorem Members.ofList_eq {members : Members}
    (increasing : (members.map (·.1)).Pairwise (· < ·)) : Members.ofList members = members := by
  have collect : ∀ done : Members, ((done ++ members).map (·.1)).Pairwise (· < ·) →
      members.foldl (fun result member => Members.set member.1 member.2 result) done =
        done ++ members := by
    clear increasing
    induction members with
    | nil => simp
    | cons member rest ih =>
      intro done sorted
      obtain ⟨key, value⟩ := member
      have earlier : ∀ k ∈ done.map (·.1), k < key := by
        rw [List.map_append, List.pairwise_append] at sorted
        exact fun k member => sorted.2.2 k member key List.mem_cons_self
      simp only [List.foldl_cons, Members.set_last earlier]
      rw [ih (done ++ [(key, value)]) (by simpa using sorted), List.append_assoc,
        List.singleton_append]
  exact collect [] increasing

-- A tree that is not nested too deep has a value; it is the value that the tree spells when
-- this is in the form of a value that was read.
mutual

theorem exists_value?_tree : (v : Value) → {levels : Nat} → v.depth ≤ levels →
    ∃ w, v.tree.value? levels = some w ∧ (v.Ordered → w = v)
  | .null, _, _ | .bool _, _, _ | .number _, _, _ | .string _, _, _ => ⟨_, rfl, fun _ => rfl⟩
  | .array items, levels + 1, deep => by
    obtain ⟨read, found, same⟩ := exists_values?_trees items (Nat.le_of_succ_le_succ deep)
    refine ⟨.array read, ?_, fun ordered => by rw [same ordered]⟩
    simp only [Value.tree, Tree.value?, found, Option.map_some]
  | .object members, levels + 1, deep => by
    obtain ⟨read, found, same⟩ :=
      exists_memberValues?_memberTrees members (Nat.le_of_succ_le_succ deep)
    refine ⟨.object (Members.ofList read), ?_, fun ordered => ?_⟩
    · simp only [Value.tree, Tree.value?, found, Option.map_some]
    · rw [same ordered.2, Members.ofList_eq ordered.1]

theorem exists_values?_trees : (items : List Value) → {levels : Nat} →
    itemsDepth items ≤ levels →
    ∃ read, values? levels (trees items) = some read ∧ (ItemsOrdered items → read = items)
  | [], _, _ => ⟨[], rfl, fun _ => rfl⟩
  | item :: rest, levels, deep => by
    obtain ⟨first, others⟩ := Nat.max_le.mp deep
    obtain ⟨w, found, same⟩ := exists_value?_tree item first
    obtain ⟨read, onward, equal⟩ := exists_values?_trees rest others
    refine ⟨w :: read, ?_, fun ordered => by rw [same ordered.1, equal ordered.2]⟩
    simp only [trees, values?, found, onward]
    rfl

theorem exists_memberValues?_memberTrees : (members : List (String × Value)) → {levels : Nat} →
    membersDepth members ≤ levels →
    ∃ read, memberValues? levels (memberTrees members) = some read ∧
      (MembersOrdered members → read = members)
  | [], _, _ => ⟨[], rfl, fun _ => rfl⟩
  | (key, item) :: rest, levels, deep => by
    obtain ⟨first, others⟩ := Nat.max_le.mp deep
    obtain ⟨w, found, same⟩ := exists_value?_tree item first
    obtain ⟨read, onward, equal⟩ := exists_memberValues?_memberTrees rest others
    refine ⟨(key, w) :: read, ?_, fun ordered => by rw [same ordered.1, equal ordered.2]⟩
    simp only [memberTrees, memberValues?, found, onward]
    rfl

end

theorem membersOrdered_iff {members : List (String × Value)} :
    MembersOrdered members ↔ ∀ member ∈ members, member.2.Ordered := by
  induction members with
  | nil => exact iff_of_true trivial (List.forall_mem_nil _)
  | cons member rest ih => rw [List.forall_mem_cons, ← ih, MembersOrdered]

theorem membersDepth_le_iff {members : List (String × Value)} {levels : Nat} :
    membersDepth members ≤ levels ↔ ∀ member ∈ members, member.2.depth ≤ levels := by
  induction members with
  | nil => exact iff_of_true (Nat.zero_le _) (List.forall_mem_nil _)
  | cons member rest ih => rw [List.forall_mem_cons, ← ih, membersDepth, Nat.max_le]

-- What a tree denotes is in the form of a value that was read.
mutual

theorem ordered_of_value? : (tree : Tree) → {levels : Nat} → {v : Value} →
    tree.value? levels = some v → v.Ordered ∧ v.depth ≤ levels
  | .null, _, _, valued | .bool _, _, _, valued => by
    obtain rfl := Option.some.inj valued
    exact ⟨trivial, Nat.zero_le _⟩
  | .number _, _, _, valued | .string _, _, _, valued => by
    obtain ⟨_, _, rfl⟩ := Option.map_eq_some_iff.mp valued
    exact ⟨trivial, Nat.zero_le _⟩
  | .array items, levels + 1, _, valued => by
    obtain ⟨read, found, rfl⟩ := Option.map_eq_some_iff.mp valued
    obtain ⟨ordered, shallow⟩ := ordered_of_values? items found
    exact ⟨ordered, Nat.succ_le_succ shallow⟩
  | .object members, levels + 1, _, valued => by
    obtain ⟨read, found, rfl⟩ := Option.map_eq_some_iff.mp valued
    have each : ∀ member ∈ Members.ofList read, member.2.Ordered ∧ member.2.depth ≤ levels :=
      fun member among =>
        ordered_of_memberValues? members found member (Members.mem_of_mem_ofList among)
    refine ⟨⟨Members.increasing_ofList read, membersOrdered_iff.mpr fun member among => ?_⟩,
      Nat.succ_le_succ (membersDepth_le_iff.mpr fun member among => ?_)⟩
    · exact (each member among).1
    · exact (each member among).2

theorem ordered_of_values? : (items : List Tree) → {levels : Nat} → {read : List Value} →
    values? levels items = some read → ItemsOrdered read ∧ itemsDepth read ≤ levels
  | [], _, _, valued => by
    obtain rfl := Option.some.inj valued
    exact ⟨trivial, Nat.zero_le _⟩
  | item :: rest, _, _, valued => by
    obtain ⟨v, known, valued⟩ := Option.bind_eq_some_iff.mp valued
    obtain ⟨read, found, same⟩ := Option.bind_eq_some_iff.mp valued
    obtain rfl := Option.some.inj same
    obtain ⟨first, shallow⟩ := ordered_of_value? item known
    obtain ⟨others, below⟩ := ordered_of_values? rest found
    exact ⟨⟨first, others⟩, Nat.max_le.mpr ⟨shallow, below⟩⟩

theorem ordered_of_memberValues? : (members : List (Option String × Tree)) → {levels : Nat} →
    {read : List (String × Value)} → memberValues? levels members = some read →
    ∀ member ∈ read, member.2.Ordered ∧ member.2.depth ≤ levels
  | [], _, _, valued => by
    obtain rfl := Option.some.inj valued
    exact List.forall_mem_nil _
  | (key, item) :: rest, _, _, valued => by
    obtain ⟨name, _, valued⟩ := Option.bind_eq_some_iff.mp valued
    obtain ⟨v, known, valued⟩ := Option.bind_eq_some_iff.mp valued
    obtain ⟨read, found, same⟩ := Option.bind_eq_some_iff.mp valued
    obtain rfl := Option.some.inj same
    exact List.forall_mem_cons.mpr
      ⟨ordered_of_value? item known, ordered_of_memberValues? rest found⟩

end

theorem ordered_of_ofString? {text : String} {v : Value} (read : Value.ofString? text = some v) :
    v.Ordered ∧ v.depth ≤ maxLevels := by
  obtain ⟨tree, _, valued⟩ := Option.bind_eq_some_iff.mp read
  exact ordered_of_value? tree valued

/-- A text is taken as the tree that it spells, which need not have a value. -/
theorem ofString?_render_eq {v : Value} (survive : ∀ n ∈ v.numbers, n.Survives) :
    Value.ofString? v.render = v.tree.value? maxLevels := by
  rw [Value.ofString?, Value.render, String.toList_ofList, Value.read?, read?_chars survive]
  rfl

/-- A value whose numbers come back, not nested too deep, is read back from its text. -/
theorem ofString?_render {v : Value} (survive : ∀ n ∈ v.numbers, n.Survives)
    (ordered : v.Ordered) (deep : v.depth ≤ maxLevels) :
    Value.ofString? v.render = some v := by
  obtain ⟨w, found, same⟩ := exists_value?_tree v deep
  rw [ofString?_render_eq survive, found, same ordered]

end Nesting

section Whole

theorem le_ofDigitChars (digits : List Char) (start : Nat) :
    start ≤ Nat.ofDigitChars 10 digits start := by
  induction digits generalizing start with
  | nil => exact Nat.le_refl _
  | cons c digits ih =>
    rw [Nat.ofDigitChars_cons]
    exact Nat.le_trans (by omega) (ih _)

/-- Digits are taken in as long as 64 bits hold what they amount to. -/
theorem absorb_eq (digits : List Char) (start : Nat)
    (small : Nat.ofDigitChars 10 digits start < 0x10000000000000000) :
    absorb start digits = (Nat.ofDigitChars 10 digits start, []) := by
  induction digits generalizing start with
  | nil => rfl
  | cons c digits ih =>
    rw [Nat.ofDigitChars_cons, Nat.mul_comm] at small
    have next : start * 10 + (c.toNat - '0'.toNat) < 0x10000000000000000 :=
      Nat.lt_of_le_of_lt (le_ofDigitChars digits _) small
    rw [absorb, if_pos next, ih _ small, Nat.ofDigitChars_cons, Nat.mul_comm]

theorem head?_toDigits {n : Nat} (positive : 0 < n) : (Nat.toDigits 10 n).head? ≠ some '0' := by
  induction n using Nat.strongRecOn with
  | ind n ih =>
    rw [Nat.toDigits_eq_if (by decide)]
    split
    · rename_i small
      have digit : n = 1 ∨ n = 2 ∨ n = 3 ∨ n = 4 ∨ n = 5 ∨ n = 6 ∨ n = 7 ∨ n = 8 ∨ n = 9 := by omega
      rcases digit with rfl | rfl | rfl | rfl | rfl | rfl | rfl | rfl | rfl <;> decide
    · have leading : 0 < n / 10 := by omega
      have earlier := ih (n / 10) (by omega) leading
      cases digits : Nat.toDigits 10 (n / 10) with
      | nil => exact absurd digits Nat.toDigits_ne_nil
      | cons first rest =>
        rw [digits] at earlier
        exact earlier

theorem ofChars?_toDigits (n : Nat) :
    Literal.ofChars? (Nat.toDigits 10 n) = some ⟨false, Nat.toDigits 10 n, [], none⟩ := by
  have digits : ∀ c ∈ Nat.toDigits 10 n, c.isDigit = true :=
    fun c member => Nat.isDigit_of_mem_toDigits (by decide) (by decide) member
  have unsigned : (Nat.toDigits 10 n).head? ≠ some '-' := by
    intro minus
    exact absurd (digits '-' (List.mem_of_head? minus)) (by decide)
  have plain : ¬(1 < (Nat.toDigits 10 n).length ∧ (Nat.toDigits 10 n).head? = some '0') := by
    rintro ⟨long, zero⟩
    rcases Nat.eq_zero_or_pos n with rfl | positive
    · exact absurd long (by decide)
    · exact head?_toDigits positive zero
  unfold Literal.ofChars?
  split
  rename_i negative cs same
  have whole : cs = Nat.toDigits 10 n ∧ negative = false := by
    split at same
    · rename_i rest start
      rw [start] at unsigned
      exact absurd rfl unsigned
    · cases same
      exact ⟨rfl, rfl⟩
  obtain ⟨rfl, rfl⟩ := whole
  simp only [List.takeWhile_eq_self_iff.mpr digits, List.dropWhile_eq_nil_iff.mpr digits,
    Nat.toDigits_ne_nil, plain, false_or, if_false]

theorem survives_whole {n : Nat} (small : n < 0x10000000000000000) :
    (Number.whole n).Survives := by
  refine ⟨_, _, rfl, ofChars?_toDigits n, ?_⟩
  have total : Nat.ofDigitChars 10 (Nat.toDigits 10 n) 0 = n := Nat.ofDigitChars_ten_toDigits
  have taken := absorb_eq (Nat.toDigits 10 n) 0 (by rwa [total])
  simp only [Literal.number?, taken, total]
  rfl

end Whole

end ClaimAudit.Json
