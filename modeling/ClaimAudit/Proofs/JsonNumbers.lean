import ClaimAudit.Proofs.DecimalValue
import ClaimAudit.Proofs.JsonText

/-! The numbers in a JSON value.

Every number in a value that was read is the number of a literal in its text, wherever it stands.
And every literal that stands for a number stands for a finite one: what overflows stands for none.
-/

set_option autoImplicit false

namespace ClaimAudit.Json

section Reading

variable {n : Number}

inductive Tree.Mentions (n : Number) : Tree → Prop where
  | number : Mentions n (.number (some n))
  | item {items : List Tree} {item : Tree} (member : item ∈ items) (inside : Mentions n item) :
    Mentions n (.array items)
  | member {members : List (Option String × Tree)} {key : Option String} {item : Tree}
    (member : (key, item) ∈ members) (inside : Mentions n item) : Mentions n (.object members)

inductive Value.Mentions (n : Number) : Value → Prop where
  | number : Mentions n (.number n)
  | item {items : List Value} {item : Value} (member : item ∈ items) (inside : Mentions n item) :
    Mentions n (.array items)
  | member {members : List (String × Value)} {key : String} {item : Value}
    (member : (key, item) ∈ members) (inside : Mentions n item) : Mentions n (.object members)

namespace Tree

@[simp] theorem not_mentions_null : ¬ Tree.null.Mentions n := nofun

@[simp] theorem not_mentions_bool (b : Bool) : ¬ (Tree.bool b).Mentions n := nofun

@[simp] theorem not_mentions_string (s : Option String) : ¬ (Tree.string s).Mentions n := nofun

@[simp] theorem mentions_number {number : Option Number} :
    (Tree.number number).Mentions n ↔ number = some n :=
  ⟨fun mentioned => by cases mentioned; rfl, fun same => same ▸ .number⟩

@[simp] theorem mentions_array {items : List Tree} :
    (Tree.array items).Mentions n ↔ ∃ item ∈ items, item.Mentions n :=
  ⟨fun mentioned => by cases mentioned with | item member inside => exact ⟨_, member, inside⟩,
    fun ⟨_, member, inside⟩ => .item member inside⟩

@[simp] theorem mentions_object {members : List (Option String × Tree)} :
    (Tree.object members).Mentions n ↔ ∃ member ∈ members, member.2.Mentions n :=
  ⟨fun mentioned => by cases mentioned with | member member inside => exact ⟨_, member, inside⟩,
    fun ⟨_, member, inside⟩ => .member member inside⟩

end Tree

def Frame.Mentions (n : Number) : Frame → Prop
  | .items read => ∃ item ∈ read, item.Mentions n
  | .member read _ => ∃ member ∈ read, member.2.Mentions n

@[simp] theorem Frame.mentions_items {read : List Tree} :
    (Frame.items read).Mentions n ↔ ∃ item ∈ read, item.Mentions n := Iff.rfl

@[simp] theorem Frame.mentions_member {read : List (Option String × Tree)} {key : Option String} :
    (Frame.member read key).Mentions n ↔ ∃ member ∈ read, member.2.Mentions n := Iff.rfl

def State.Mentions (n : Number) : State → Prop
  | .value stack | .firstItem stack | .firstKey stack => ∃ frame ∈ stack, frame.Mentions n
  | .key read stack | .colon read _ stack =>
    (∃ member ∈ read, member.2.Mentions n) ∨ ∃ frame ∈ stack, frame.Mentions n
  | .after tree stack => tree.Mentions n ∨ ∃ frame ∈ stack, frame.Mentions n

namespace State

variable {state next : State} {token : Token}

theorem mentions_of_begin {stack : List Frame} (begun : begin stack token = some next)
    (mentioned : next.Mentions n) :
    (∃ frame ∈ stack, frame.Mentions n) ∨ token = .number (some n) := by
  cases token <;> cases begun <;> simpa [Mentions, or_comm] using mentioned

/-- A number that is new after a token is the number of that token. -/
theorem mentions_of_step (step : state.step token = some next) (mentioned : next.Mentions n) :
    state.Mentions n ∨ token = .number (some n) := by
  unfold State.step at step
  split at step
  · exact mentions_of_begin step mentioned
  case h_3 => simpa [Mentions] using mentions_of_begin step mentioned
  -- A token that begins no value only moves what has been read.
  all_goals cases step
  all_goals
    refine .inl ?_
    simp only [Mentions, Frame.mentions_items, Frame.mentions_member, Tree.mentions_array,
      Tree.mentions_object, List.mem_reverse, List.exists_mem_cons_iff] at mentioned ⊢
    grind

theorem mentions_of_run {tokens : List Token} (ran : state.run tokens = some next)
    (mentioned : next.Mentions n) : state.Mentions n ∨ .number (some n) ∈ tokens := by
  induction tokens generalizing state with
  | nil =>
    cases ran
    exact .inl mentioned
  | cons token tokens ih =>
    obtain ⟨between, stepped, rest⟩ := Option.bind_eq_some_iff.mp ran
    rcases ih rest with before | later
    · rcases mentions_of_step stepped before with held | rfl
      · exact .inl held
      · exact .inr List.mem_cons_self
    · exact .inr (List.mem_cons_of_mem token later)

end State

theorem literal_of_word {word : List Char} (found : wordToken? word = some (.number (some n))) :
    ∃ literal : Literal, literal.number? = some n := by
  unfold wordToken? at found
  split_ifs at found
  all_goals simp at found
  obtain ⟨literal, _, known⟩ := found
  exact ⟨literal, known⟩

theorem literal_of_read? {text : List Char} {tree : Tree} (read : Tree.read? text = some tree)
    (mentioned : tree.Mentions n) : ∃ literal : Literal, literal.number? = some n := by
  obtain ⟨tokens, scanned, ran⟩ := Tree.run_of_read? read
  have among : .number (some n) ∈ tokens :=
    (State.mentions_of_run ran (.inl mentioned)).resolve_left (by simp [State.Mentions])
  obtain ⟨word, found⟩ := word_of_scan scanned among
  exact literal_of_word found

theorem exists_of_mem_values? {levels : Nat} {trees : List Tree} {items : List Value}
    (valued : values? levels trees = some items) {item : Value} (member : item ∈ items) :
    ∃ tree ∈ trees, tree.value? levels = some item := by
  induction trees generalizing items with
  | nil =>
    cases valued
    cases member
  | cons tree trees ih =>
    obtain ⟨first, known, valued⟩ := Option.bind_eq_some_iff.mp valued
    obtain ⟨rest, others, same⟩ := Option.bind_eq_some_iff.mp valued
    cases same
    rcases List.mem_cons.mp member with rfl | later
    · exact ⟨tree, List.mem_cons_self, known⟩
    · obtain ⟨under, among, known⟩ := ih others later
      exact ⟨under, List.mem_cons_of_mem tree among, known⟩

theorem exists_of_mem_memberValues? {levels : Nat} {trees : List (Option String × Tree)}
    {members : List (String × Value)} (valued : memberValues? levels trees = some members)
    {named : String × Value} (member : named ∈ members) :
    ∃ tree ∈ trees, tree.2.value? levels = some named.2 := by
  induction trees generalizing members with
  | nil =>
    cases valued
    cases member
  | cons tree trees ih =>
    obtain ⟨key, _, valued⟩ := Option.bind_eq_some_iff.mp valued
    obtain ⟨first, known, valued⟩ := Option.bind_eq_some_iff.mp valued
    obtain ⟨rest, others, same⟩ := Option.bind_eq_some_iff.mp valued
    cases same
    rcases List.mem_cons.mp member with rfl | later
    · exact ⟨tree, List.mem_cons_self, known⟩
    · obtain ⟨under, among, known⟩ := ih others later
      exact ⟨under, List.mem_cons_of_mem tree among, known⟩

theorem Members.mem_of_get? {key : String} {value : Value} {members : Members}
    (found : Members.get? key members = some value) : (key, value) ∈ members := by
  induction members with
  | nil => cases found
  | cons head rest ih =>
    unfold get? at found
    split_ifs at found with same
    · cases found
      subst same
      exact List.mem_cons_self
    · exact List.mem_cons_of_mem head (ih found)

theorem Tree.mentions_of_value? {tree : Tree} {levels : Nat} {value : Value}
    (valued : tree.value? levels = some value) (mentioned : value.Mentions n) :
    tree.Mentions n := by
  induction mentioned generalizing tree levels with
  | number =>
    cases tree with
    | number number => simpa [Tree.value?] using valued
    | null | bool | string => simp [Tree.value?] at valued
    | array | object => cases levels <;> simp [Tree.value?] at valued
  | @item items item member inside ih =>
    cases tree with
    | array trees =>
      cases levels with
      | zero => cases valued
      | succ levels =>
        obtain ⟨_, known, same⟩ := Option.map_eq_some_iff.mp valued
        cases same
        obtain ⟨under, among, known⟩ := exists_of_mem_values? known member
        exact .item among (ih known)
    | null | bool | number | string => simp [Tree.value?] at valued
    | object => cases levels <;> simp [Tree.value?] at valued
  | @member members key item member inside ih =>
    cases tree with
    | object trees =>
      cases levels with
      | zero => cases valued
      | succ levels =>
        obtain ⟨_, known, same⟩ := Option.map_eq_some_iff.mp valued
        cases same
        obtain ⟨⟨_, under⟩, among, known⟩ :=
          exists_of_mem_memberValues? known (Members.mem_of_mem_ofList member)
        exact .member among (ih known)
    | null | bool | number | string => simp [Tree.value?] at valued
    | array => cases levels <;> simp [Tree.value?] at valued

end Reading

section Range

open ClaimAudit.Number
open Float.Model.UnpackedFloat (Sign)

variable {f : Float}

theorem finite_powerOfTen {e : Nat} (few : e ≤ 308) :
    ∃ x, Finite (powerOfTen e).toModel.unpack .positive x ∧ 1 ≤ x := by
  have bound : 10 ^ 308 ≤ (2 ^ 53 - 1) * 2 ^ 971 := by decide +kernel
  have value : scientific 1 false e = 10 ^ e := by
    rw [scientific, if_neg Bool.false_ne_true, Nat.cast_one, one_mul]
  have most : (10 ^ e : ℚ) ≤ (2 ^ 53 - 1 : ℕ) * 2 ^ (971 : ℤ) := by
    calc (10 ^ e : ℚ) ≤ 10 ^ 308 := pow_le_pow_right₀ (by norm_num) few
      _ ≤ (2 ^ 53 - 1 : ℕ) * 2 ^ (971 : ℤ) := by exact_mod_cast bound
  have one : rounded (1 : ℕ) = (1 : ℕ) := rounded_natCast (by decide)
  have holds := holds_ofScientific Nat.one_pos false e
  rw [value] at holds
  refine ⟨_, holds.finite (rounded_lt_limit (by positivity) most), ?_⟩
  rw [← Nat.cast_one, ← one]
  exact rounded_mono (by norm_num) (by exact_mod_cast Nat.one_le_pow e 10 (by decide))

theorem finite_step_down {significand : Float} {x : Rat} {e : Nat} (few : e ≤ 308)
    (finite : Finite significand.toModel.unpack .positive x) :
    ∃ y, Finite (significand / powerOfTen e).toModel.unpack .positive y := by
  obtain ⟨p, power, least⟩ := finite_powerOfTen few
  have divided := holds_div finite power (zero_lt_one.trans_le least).ne'
  refine ⟨_, divided.finite ?_⟩
  calc rounded (x / p) ≤ rounded x := rounded_mono
        (div_nonneg finite.nonneg (zero_le_one.trans least)) (div_le_self finite.nonneg least)
    _ = x := finite.rounded_eq
    _ < 2 ^ (1024 : ℤ) := lt_limit_of_finite finite

theorem finite_scale {significand : Float} {exponent : Int} {x : Rat}
    (finite : Finite significand.toModel.unpack .positive x)
    (scaled : scale significand exponent = some f) :
    ∃ y, Finite f.toModel.unpack .positive y := by
  fun_induction scale significand exponent generalizing x with
  | case1 => cases scaled
  | case2 significand exponent few nonneg product =>
    rename_i bounded
    rw [← Option.some.inj scaled]
    obtain ⟨p, power, _⟩ := finite_powerOfTen few
    -- A product out of range has been refused.
    exact ⟨_, (holds_mul finite power).finite_of_not_isInf (by simpa using bounded)⟩
  | case3 significand exponent few =>
    cases scaled
    exact finite_step_down few finite
  | case4 =>
    cases scaled
    exact ⟨x, finite⟩
  | case5 => cases scaled
  | case6 significand exponent great some down ih =>
    obtain ⟨y, lower⟩ := finite_step_down le_rfl finite
    exact ih lower scaled

theorem absorb_lt (digits : List Char) {significand : Nat} (fits : significand < 2 ^ 64) :
    (absorb significand digits).1 < 2 ^ 64 := by
  induction digits generalizing significand with
  | nil => exact fits
  | cons c digits ih =>
    simp only [absorb]
    split_ifs with next
    · exact ih next
    · exact fits

theorem isFinite_of_finite {s : Sign} {x : Rat} (finite : Finite f.toModel.unpack s x) :
    f.isFinite := by
  rw [isFinite_iff_value?, value?_of_finite finite]
  rfl

theorem isFinite_neg {s : Sign} {x : Rat} (finite : Finite f.toModel.unpack s x) :
    (-f).isFinite := by
  have holds : Holds f s x := .inl ⟨lt_limit_of_finite finite, finite⟩
  exact isFinite_of_finite (holds.neg.finite (lt_limit_of_finite finite))

theorem Literal.isFinite_number? {literal : Literal} {n : Number}
    (known : literal.number? = some n) : n.toFloat.isFinite := by
  have leading := finite_ofNat (absorb_lt literal.whole (show 0 < 2 ^ 64 by decide))
  unfold Literal.number? at known
  simp only at known
  split at known
  · split_ifs at known with plain small
    · cases known
      exact isFinite_of_finite leading
    · -- The float of a negative whole number is the negative of a float.
      cases known
      have negated : Float.ofInt (-((absorb 0 literal.whole).1 : ℤ)) =
          -Float.ofNat (absorb 0 literal.whole).1 := by
        obtain ⟨m, positive⟩ := Nat.exists_eq_succ_of_ne_zero small.1.ne'
        rw [positive]
        rfl
      rw [Number.toFloat, negated]
      exact isFinite_neg leading
    · cases known
      exact isFinite_neg leading
  · obtain ⟨magnitude, scaled, rfl⟩ := Option.map_eq_some_iff.mp known
    obtain ⟨x, finite⟩ := finite_scale (finite_ofNat (absorb_lt _ (absorb_lt _ (by decide)))) scaled
    simp only [Number.toFloat]
    split_ifs
    · exact isFinite_neg finite
    · exact isFinite_of_finite finite

end Range

/-- Every number in a value that was read is finite. -/
theorem isFinite_of_read? {text : List Char} {value : Value} {n : Number}
    (read : Value.read? text = some value) (mentioned : value.Mentions n) :
    n.toFloat.isFinite := by
  obtain ⟨tree, read, valued⟩ := Option.bind_eq_some_iff.mp read
  obtain ⟨literal, known⟩ := literal_of_read? read (Tree.mentions_of_value? valued mentioned)
  exact literal.isFinite_number? known

end ClaimAudit.Json
