import ClaimAudit.Proofs.DecimalValue
import ClaimAudit.Proofs.TextPieces

/-! The texts of floating-point numbers.

A text is a numeral, or the name of an infinity or of what is no number, with a sign in front of
it. The grammar is given as relations between a text and what it stands for, and reading a numeral
is finding out whether it belongs to the grammar.
-/

set_option autoImplicit false

namespace ClaimAudit.Number

def Digits (text : List Char) : Prop := ∀ c ∈ text, c.isDigit = true

theorem digitsValue_eq (digits : List Char) :
    digitsValue digits = Nat.ofDigitChars 10 digits 0 := Text.foldl_digits_eq digits

inductive Signed : Bool → List Char → List Char → Prop where
  | bare (body : List Char) : Signed false body body
  | plus (body : List Char) : Signed false body ('+' :: body)
  | minus (body : List Char) : Signed true body ('-' :: body)

/-- Digits before and behind a point, which may be left out if no digits follow. -/
inductive Pointed : List Char → List Char → List Char → Prop where
  | whole (digits : List Char) : Pointed digits [] digits
  | point (whole fraction : List Char) : Pointed whole fraction (whole ++ '.' :: fraction)

inductive Scaled : Int → List Char → Prop where
  | absent : Scaled 0 []
  | up {digits text : List Char} {mark : Char} (marked : mark = 'e' ∨ mark = 'E')
    (signed : Signed false digits text) (some : digits ≠ []) (all : Digits digits) :
    Scaled (Nat.ofDigitChars 10 digits 0) (mark :: text)
  | down {digits text : List Char} {mark : Char} (marked : mark = 'e' ∨ mark = 'E')
    (signed : Signed true digits text) (some : digits ≠ []) (all : Digits digits) :
    Scaled (-Nat.ofDigitChars 10 digits 0) (mark :: text)

inductive Numeral : Decimal → List Char → Prop where
  | intro {negative : Bool} {whole fraction front back text : List Char} {exponent : Int}
    (pointed : Pointed whole fraction front) (scaled : Scaled exponent back)
    (signed : Signed negative (front ++ back) text) (some : whole ++ fraction ≠ [])
    (all : Digits (whole ++ fraction)) :
    Numeral ⟨negative, Nat.ofDigitChars 10 (whole ++ fraction) 0, exponent - fraction.length⟩ text

theorem signed?_eq_some_iff {text digits : List Char} {negative : Bool} :
    signed? text = some (negative, digits) ↔
      Signed negative digits text ∧ digits ≠ [] ∧ Digits digits := by
  have all {digits : List Char} : digits.all Char.isDigit = true ↔ Digits digits :=
    List.all_eq_true
  constructor
  · intro read
    unfold signed? at read
    split at read <;> split_ifs at read with known
    · cases read
      exact ⟨.minus _, known.1, all.mp known.2⟩
    · cases read
      exact ⟨.plus _, known.1, all.mp known.2⟩
    · cases read
      exact ⟨.bare _, known.1, all.mp known.2⟩
  · rintro ⟨signed, some, digits⟩
    have known := And.intro some (all.mpr digits)
    cases signed with
    | plus | minus => simp only [signed?, if_pos known]
    | bare =>
      unfold signed?
      split
      · have digit := digits '-' List.mem_cons_self
        cases digit
      · have digit := digits '+' List.mem_cons_self
        cases digit
      · rw [if_pos known]

theorem exponent?_eq_some_iff {text : List Char} {exponent : Int} :
    exponent? text = some exponent ↔ Scaled exponent text := by
  constructor
  · intro read
    unfold exponent? at read
    split at read
    · cases read
      exact .absent
    · split_ifs at read with marked
      obtain ⟨⟨negative, digits⟩, known, rfl⟩ := Option.map_eq_some_iff.mp read
      obtain ⟨signed, some, all⟩ := signed?_eq_some_iff.mp known
      simp only [digitsValue_eq]
      cases negative with
      | false => exact .up marked signed some all
      | true => exact .down marked signed some all
  · intro scaled
    cases scaled with
    | absent => rfl
    | up marked signed some all =>
      rw [exponent?, if_pos marked, signed?_eq_some_iff.mpr ⟨signed, some, all⟩]
      simp [digitsValue_eq]
    | down marked signed some all =>
      rw [exponent?, if_pos marked, signed?_eq_some_iff.mpr ⟨signed, some, all⟩]
      simp [digitsValue_eq]

theorem Scaled.stops {exponent : Int} {text : List Char} (scaled : Scaled exponent text) :
    ∀ c ∈ text.head?, c.isDigit = false ∧ c ≠ '.' := by
  cases scaled with
  | absent => simp
  | up marked | down marked => rcases marked with rfl | rfl <;> simp [Char.isDigit]

theorem span_digits {digits rest : List Char} (all : Digits digits)
    (stops : ∀ c ∈ rest.head?, c.isDigit = false) :
    (digits ++ rest).takeWhile Char.isDigit = digits ∧
      (digits ++ rest).dropWhile Char.isDigit = rest := by
  rw [List.takeWhile_append_of_pos all, List.dropWhile_append_of_pos all]
  cases rest with
  | nil => simp
  | cons c rest => simp [stops c rfl]

theorem unsigned?_eq_some (negative : Bool) {whole fraction front back : List Char}
    {exponent : Int} (pointed : Pointed whole fraction front) (scaled : Scaled exponent back)
    (some : whole ++ fraction ≠ []) (all : Digits (whole ++ fraction)) :
    unsigned? negative (front ++ back) = .some
      ⟨negative, Nat.ofDigitChars 10 (whole ++ fraction) 0, exponent - fraction.length⟩ := by
  have digits : Digits whole := fun c member => all c (List.mem_append_left _ member)
  have filled : ¬ (whole = [] ∧ fraction = []) := by simpa using some
  have stops := scaled.stops
  have read := exponent?_eq_some_iff.mpr scaled
  cases pointed with
  | whole =>
    obtain ⟨taken, dropped⟩ := span_digits digits fun c first => (stops c first).1
    rw [unsigned?, taken, dropped]
    split
    rename_i fraction rest found
    split at found
    · -- No exponent begins with a point.
      exact absurd rfl (stops '.' rfl).2
    · cases found
      show (if whole = [] ∧ ([] : List Char) = [] then none else _) = _
      rw [if_neg filled, read, ← digitsValue_eq]
      rfl
  | point =>
    have digits' : Digits fraction := fun c member => all c (List.mem_append_right _ member)
    have dot : ∀ c ∈ ('.' :: (fraction ++ back)).head?, c.isDigit = false := by simp
    obtain ⟨taken, dropped⟩ := span_digits digits dot
    obtain ⟨taken', dropped'⟩ := span_digits digits' fun c first => (stops c first).1
    rw [unsigned?, List.append_assoc, List.cons_append, taken, dropped]
    simp only [taken', dropped', if_neg filled, read, Option.map_some, digitsValue_eq]

theorem exists_of_unsigned? {negative : Bool} {text : List Char} {d : Decimal}
    (read : unsigned? negative text = some d) :
    ∃ whole fraction front back exponent, Pointed whole fraction front ∧ Scaled exponent back ∧
      text = front ++ back ∧ whole ++ fraction ≠ [] ∧ Digits (whole ++ fraction) ∧
      d = ⟨negative, Nat.ofDigitChars 10 (whole ++ fraction) 0, exponent - fraction.length⟩ := by
  have digits (text : List Char) : Digits (text.takeWhile Char.isDigit) :=
    fun c member => List.mem_takeWhile_imp member
  unfold unsigned? at read
  split at read
  rename_i fraction rest found
  simp only [digitsValue_eq] at read
  split_ifs at read with filled
  obtain ⟨exponent, known, rfl⟩ := Option.map_eq_some_iff.mp read
  have scaled := exponent?_eq_some_iff.mp known
  split at found
  · rename_i after behind
    cases found
    refine ⟨_, _, _, _, _, .point _ _, scaled, ?_, by simpa using filled, ?_, rfl⟩
    · -- The digits, the point and the digits behind it are put together again.
      conv_lhs => rw [← List.takeWhile_append_dropWhile (p := Char.isDigit) (l := text), behind]
      simp [List.takeWhile_append_dropWhile]
    · intro c member
      exact (List.mem_append.mp member).elim (digits text c) (digits after c)
  · cases found
    refine ⟨_, [], _, _, _, .whole _, scaled, List.takeWhile_append_dropWhile.symm,
      by simpa using filled, ?_, rfl⟩
    rw [List.append_nil]
    exact digits text

theorem Pointed.exists_first {whole fraction front : List Char}
    (pointed : Pointed whole fraction front) (some : whole ++ fraction ≠ [])
    (all : Digits (whole ++ fraction)) :
    ∃ c rest, front = c :: rest ∧ (c.isDigit = true ∨ c = '.') := by
  cases whole with
  | nil =>
    cases pointed with
    | whole => exact absurd rfl some
    | point => exact ⟨'.', fraction, rfl, .inr rfl⟩
  | cons c whole =>
    have digit := all c List.mem_cons_self
    cases pointed with
    | whole => exact ⟨c, whole, rfl, .inl digit⟩
    | point => exact ⟨c, whole ++ '.' :: fraction, rfl, .inl digit⟩

/-- Reading a numeral decides whether a text belongs to the grammar. -/
theorem Decimal.ofChars?_eq_some_iff {text : List Char} {d : Decimal} :
    Decimal.ofChars? text = some d ↔ Numeral d text := by
  constructor
  · intro read
    unfold Decimal.ofChars? at read
    split at read <;>
      obtain ⟨whole, fraction, front, back, exponent, pointed, scaled, rfl, some, all, rfl⟩ :=
        exists_of_unsigned? read
    · exact .intro pointed scaled (.minus _) some all
    · exact .intro pointed scaled (.plus _) some all
    · exact .intro pointed scaled (.bare _) some all
  · rintro ⟨pointed, scaled, signed, some, all⟩
    have read := fun negative => unsigned?_eq_some negative pointed scaled some all
    cases signed with
    | plus | minus => exact read _
    | bare =>
      -- The first character is not taken for a sign.
      obtain ⟨c, rest, rfl, first⟩ := pointed.exists_first some all
      unfold Decimal.ofChars?
      split
      case h_1 same =>
        cases same
        simp [Char.isDigit] at first
      case h_2 same =>
        cases same
        simp [Char.isDigit] at first
      case h_3 => exact read false

/-- A text in the syntax of floating-point numbers, and the number nearest to what it says. Letters
of names may be capitals. -/
inductive Denotes : List Char → Float → Prop where
  | numeral {text : List Char} {d : Decimal} {x : Float} (numeral : Numeral d text)
    (nearest : Holds x d.sign (rounded d.magnitude)) : Denotes text x
  | infinity {text body : List Char} {negative : Bool} (signed : Signed negative body text)
    (name : body.map Char.toLower = "inf".toList ∨ body.map Char.toLower = "infinity".toList) :
    Denotes text (if negative then -(1 / 0) else 1 / 0)
  | notANumber {text body : List Char} {negative : Bool} (signed : Signed negative body text)
    (name : body.map Char.toLower = "nan".toList) : Denotes text (0 / 0)

theorem exists_denotes_finite_iff {text : List Char} {x : Float} :
    Denotes text x ∧ x.isFinite ↔
      ∃ d, Decimal.ofChars? text = some d ∧ d.toFloat.isFinite ∧ d.toFloat = x := by
  constructor
  · rintro ⟨denotes, finite⟩
    cases denotes with
    | numeral numeral nearest =>
      obtain rfl := (Decimal.holds_toFloat _).unique nearest
      exact ⟨_, Decimal.ofChars?_eq_some_iff.mpr numeral, finite, rfl⟩
    | @infinity _ _ negative => cases negative <;> cases finite
    | notANumber => cases finite
  · rintro ⟨d, read, finite, rfl⟩
    exact ⟨.numeral (Decimal.ofChars?_eq_some_iff.mp read) d.holds_toFloat, finite⟩

section Characters

variable {d : Decimal} {text : List Char}

def OfNumeral (c : Char) : Prop := c.isDigit = true ∨ c ∈ ['+', '-', '.', 'e', 'E']

theorem OfNumeral.ink {c : Char} (written : OfNumeral c) : Text.isBlank c = false ∧ c ≠ '%' := by
  rcases written with digit | other
  · refine ⟨Text.isBlank_of_isDigit digit, ?_⟩
    rintro rfl
    cases digit
  · fin_cases other <;> decide

theorem Digits.ofNumeral (all : Digits text) : ∀ c ∈ text, OfNumeral c :=
  fun c member => .inl (all c member)

theorem Signed.ofNumeral {negative : Bool} {body : List Char} (signed : Signed negative body text)
    (body : ∀ c ∈ body, OfNumeral c) : ∀ c ∈ text, OfNumeral c := by
  cases signed with
  | bare => exact body
  | plus | minus =>
    intro c member
    rcases List.mem_cons.mp member with rfl | inner
    · exact .inr (by simp)
    · exact body c inner

theorem Numeral.ofNumeral (numeral : Numeral d text) : ∀ c ∈ text, OfNumeral c := by
  obtain ⟨pointed, scaled, sign, some, all⟩ := numeral
  refine sign.ofNumeral fun c member => ?_
  rcases List.mem_append.mp member with front | back
  · cases pointed with
    | whole => exact all.ofNumeral c (List.mem_append_left _ front)
    | point =>
      rcases List.mem_append.mp front with whole | rest
      · exact all.ofNumeral c (List.mem_append_left _ whole)
      · rcases List.mem_cons.mp rest with rfl | fraction
        · exact .inr (by simp)
        · exact all.ofNumeral c (List.mem_append_right _ fraction)
  · cases scaled with
    | absent => cases back
    | up marked written _ digits | down marked written _ digits =>
      rcases List.mem_cons.mp back with rfl | inner
      · rcases marked with rfl | rfl <;> exact .inr (by simp)
      · exact written.ofNumeral digits.ofNumeral c inner

theorem Numeral.ne_nil (numeral : Numeral d text) : text ≠ [] := by
  obtain ⟨pointed, scaled, signed, some, all⟩ := numeral
  obtain ⟨c, rest, rfl, _⟩ := pointed.exists_first some all
  cases signed <;> simp

theorem Numeral.begins (numeral : Numeral d text) : ∀ c ∈ text.head?, Text.isBlank c = false :=
  fun c first => (numeral.ofNumeral c (List.mem_of_mem_head? first)).ink.1

theorem Numeral.ends (numeral : Numeral d text) : ∀ c ∈ text.getLast?, Text.isBlank c = false :=
  fun c last => (numeral.ofNumeral c (List.mem_of_mem_getLast? last)).ink.1

end Characters

end ClaimAudit.Number
