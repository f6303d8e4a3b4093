import ClaimAudit.Proofs.QuotedText
import ClaimAudit.Settings
import Mathlib.Data.List.Nodup
import Mathlib.Logic.Function.Basic

/-! Each setting depends on its own key.

The number of a key is an optional plus sign and digits, of 64 bits, with blanks around it. The
first key in order that holds a text of another kind is an error that names this key and quotes the
text. Without such a key each setting is what its own key holds, or its default if that is nothing
or blank, and no other key has a part in it.
-/

set_option autoImplicit false

namespace ClaimAudit.Settings

section Numbers

variable {cs : List Char} {n : Nat}

inductive WholeNumber : Nat → List Char → Prop where
  | intro {digits cs : List Char} (spelled : cs = digits ∨ cs = '+' :: digits) (some : digits ≠ [])
    (all : ∀ c ∈ digits, c.isDigit = true)
    (small : Nat.ofDigitChars 10 digits 0 < 0x10000000000000000) :
    WholeNumber (Nat.ofDigitChars 10 digits 0) cs

def digitsOf : List Char → List Char
  | '+' :: digits => digits
  | digits => digits

theorem digitsOf_eq {digits : List Char} (spelled : cs = digits ∨ cs = '+' :: digits)
    (all : ∀ c ∈ digits, c.isDigit = true) : digitsOf cs = digits := by
  rcases spelled with rfl | rfl
  · unfold digitsOf
    split
    · have digit := all '+' List.mem_cons_self
      cases digit
    · rfl
  · rfl

theorem spelled_digitsOf (cs : List Char) : cs = digitsOf cs ∨ cs = '+' :: digitsOf cs := by
  unfold digitsOf
  split
  · exact .inr rfl
  · exact .inl rfl

theorem wholeNumber?_eq (cs : List Char) : wholeNumber? cs =
    if digitsOf cs ≠ [] ∧ (digitsOf cs).all Char.isDigit ∧
        Nat.ofDigitChars 10 (digitsOf cs) 0 < 0x10000000000000000 then
      some (Nat.ofDigitChars 10 (digitsOf cs) 0)
    else none := by
  rw [← Text.foldl_digits_eq]
  rfl

theorem wholeNumber?_eq_some_iff : wholeNumber? cs = some n ↔ WholeNumber n cs := by
  rw [wholeNumber?_eq, Option.ite_none_right_eq_some, List.all_eq_true, Option.some.injEq]
  constructor
  · rintro ⟨⟨some, all, small⟩, rfl⟩
    exact .intro (spelled_digitsOf cs) some all small
  · rintro ⟨spelled, some, all, small⟩
    rw [digitsOf_eq spelled all]
    exact ⟨⟨some, all, small⟩, rfl⟩

/-- A whole number in a text, with blanks on either side or none. -/
inductive Spelled (n : Nat) : List Char → Prop where
  | intro {lead text trail : List Char} (leading : ∀ c ∈ lead, Text.isBlank c = true)
    (number : WholeNumber n text) (trailing : ∀ c ∈ trail, Text.isBlank c = true) :
    Spelled n (lead ++ (text ++ trail))

theorem WholeNumber.begins (number : WholeNumber n cs) :
    ∀ c ∈ cs.head?, Text.isBlank c = false := by
  obtain ⟨spelled, some, all, _⟩ := number
  rcases spelled with rfl | rfl
  · exact fun c first => Text.isBlank_of_isDigit (all c (List.mem_of_mem_head? first))
  · rintro c ⟨⟩
    decide

theorem WholeNumber.ends (number : WholeNumber n cs) :
    ∀ c ∈ cs.getLast?, Text.isBlank c = false := by
  obtain @⟨digits, _, spelled, some, all, _⟩ := number
  have last : cs.getLast? = digits.getLast? := by
    rcases spelled with rfl | rfl
    · rfl
    · exact List.getLast?_cons_of_ne_nil some
  rw [last]
  exact fun c last => Text.isBlank_of_isDigit (all c (List.mem_of_mem_getLast? last))

theorem wholeNumber?_trimChars : wholeNumber? (Text.trimChars cs) = some n ↔ Spelled n cs := by
  rw [wholeNumber?_eq_some_iff]
  constructor
  · intro number
    obtain ⟨lead, trail, whole, leading, trailing⟩ := Text.exists_margins cs
    rw [whole, List.append_assoc]
    exact .intro leading number trailing
  · rintro ⟨leading, number, trailing⟩
    rwa [Text.trimChars_append leading trailing number.begins number.ends]

end Numbers

section Values

inductive Content where
  | text (s : String)
  | number (n : Nat)
  deriving DecidableEq, Repr

/-- The settings, one for each key. -/
inductive Field where
  | llmProvider
  | llmModel
  | ollamaBaseUrl
  | openaiApiKey
  | openaiBaseUrl
  | llmTimeoutSeconds
  | embeddingModel
  | embeddingDimension
  | qdrantUrl
  | qdrantCollection
  | knowledgeDb
  | auditTimeoutSeconds
  | logLevel
  deriving DecidableEq, Repr

namespace Field

def key : Field → String
  | .llmProvider => "LLM_PROVIDER"
  | .llmModel => "LLM_MODEL"
  | .ollamaBaseUrl => "OLLAMA_BASE_URL"
  | .openaiApiKey => "OPENAI_API_KEY"
  | .openaiBaseUrl => "OPENAI_BASE_URL"
  | .llmTimeoutSeconds => "LLM_TIMEOUT_SECS"
  | .embeddingModel => "EMBEDDING_MODEL"
  | .embeddingDimension => "EMBEDDING_DIMENSION"
  | .qdrantUrl => "QDRANT_URL"
  | .qdrantCollection => "QDRANT_COLLECTION"
  | .knowledgeDb => "KNOWLEDGE_DB"
  | .auditTimeoutSeconds => "AUDIT_TIMEOUT_SECS"
  | .logLevel => "LOG_LEVEL"

def all : List Field :=
  [.llmProvider, .llmModel, .ollamaBaseUrl, .openaiApiKey, .openaiBaseUrl, .llmTimeoutSeconds,
   .embeddingModel, .embeddingDimension, .qdrantUrl, .qdrantCollection, .knowledgeDb,
   .auditTimeoutSeconds, .logLevel]

theorem mem_all (field : Field) : field ∈ all := by cases field <;> decide

theorem key_injective : Function.Injective key := by
  have distinct : (all.map key).Nodup := by decide
  exact fun first second same =>
    List.inj_on_of_nodup_map distinct first.mem_all second.mem_all same

def value? (s : Settings) : Field → Option Content
  | .llmProvider => some (.text s.llmProvider)
  | .llmModel => some (.text s.llmModel)
  | .ollamaBaseUrl => some (.text s.ollamaBaseUrl)
  | .openaiApiKey => s.openaiApiKey.map .text
  | .openaiBaseUrl => s.openaiBaseUrl.map .text
  | .llmTimeoutSeconds => some (.number s.llmTimeoutSeconds)
  | .embeddingModel => some (.text s.embeddingModel)
  | .embeddingDimension => some (.number s.embeddingDimension)
  | .qdrantUrl => s.qdrantUrl.map .text
  | .qdrantCollection => some (.text s.qdrantCollection)
  | .knowledgeDb => s.knowledgeDb.map .text
  | .auditTimeoutSeconds => s.auditTimeoutSeconds.map .number
  | .logLevel => some (.text s.logLevel)

end Field

def numberKeys : List String := ["LLM_TIMEOUT_SECS", "EMBEDDING_DIMENSION", "AUDIT_TIMEOUT_SECS"]

/-- A key holds a text that is not blank. -/
def Given (lookup : String → Option String) (key raw : String) : Prop :=
  lookup key = some raw ∧ ∃ c ∈ raw.toList, Text.isBlank c = false

/-- A key holds a text that is neither blank nor a number. -/
def Malformed (lookup : String → Option String) (key raw : String) : Prop :=
  Given lookup key raw ∧ ∀ n, ¬ Spelled n raw.toList

/-- What a text means under a key: a number, without the blanks around it, or the text itself. -/
inductive Means (key raw : String) : Content → Prop where
  | text (textual : key ∉ numberKeys) : Means key raw (.text raw)
  | number {n : Nat} (numeric : key ∈ numberKeys) (spelled : Spelled n raw.toList) :
    Means key raw (.number n)

/-- What a setting holds by its own key: what the key means, or the default. -/
inductive Field.Follows (lookup : String → Option String) (field : Field) :
    Option Content → Prop where
  | given {raw : String} {value : Content} (given : Given lookup field.key raw)
    (means : Means field.key raw value) : Follows lookup field (some value)
  | default (absent : ∀ raw, ¬ Given lookup field.key raw) :
    Follows lookup field (field.value? {})

/-- Two environments hold the same under a key, or nothing but blanks. -/
def Alike (lookup lookup' : String → Option String) (key : String) : Prop :=
  lookup key = lookup' key ∨ (∀ raw, ¬ Given lookup key raw) ∧ ∀ raw, ¬ Given lookup' key raw

end Values

variable {lookup lookup' : String → Option String} {key raw : String} {field : Field}
  {value value' : Option Content} {s t : Settings} {e : Error}

section Keys

theorem present_eq_some_iff : present lookup key = some raw ↔ Given lookup key raw := by
  rw [present, Option.filter_eq_some_iff, Given]
  simp [Text.allBlank]

theorem present_eq_none_iff : present lookup key = none ↔ ∀ raw, ¬ Given lookup key raw := by
  rw [Option.eq_none_iff_forall_ne_some]
  exact forall_congr' fun raw => not_congr present_eq_some_iff

theorem number_of_absent (absent : ∀ raw, ¬ Given lookup key raw) :
    number lookup key = .ok none := by
  rw [number, present_eq_none_iff.mpr absent]

theorem number_of_given {n : Nat} (given : Given lookup key raw) (spelled : Spelled n raw.toList) :
    number lookup key = .ok (some n) := by
  rw [number, present_eq_some_iff.mpr given]
  simp only [wholeNumber?_trimChars.mpr spelled]

theorem number_of_malformed (malformed : Malformed lookup key raw) :
    number lookup key = .error (notANumber key raw) := by
  have unread : wholeNumber? (Text.trimChars raw.toList) = none := by
    rw [Option.eq_none_iff_forall_ne_some]
    exact fun n read => malformed.2 n (wholeNumber?_trimChars.mp read)
  rw [number, present_eq_some_iff.mpr malformed.1]
  simp only [unread]

theorem number_cases (lookup : String → Option String) (key : String) :
    (∀ raw, ¬ Given lookup key raw) ∨
    (∃ raw n, Given lookup key raw ∧ Spelled n raw.toList) ∨
    ∃ raw, Malformed lookup key raw := by
  by_cases absent : ∀ raw, ¬ Given lookup key raw
  · exact .inl absent
  · obtain ⟨raw, given⟩ := not_forall_not.mp absent
    by_cases spelled : ∃ n, Spelled n raw.toList
    · obtain ⟨n, spelled⟩ := spelled
      exact .inr (.inl ⟨raw, n, given, spelled⟩)
    · exact .inr (.inr ⟨raw, given, not_exists.mp spelled⟩)

theorem number_eq_error_iff : number lookup key = .error e ↔
    ∃ raw, Malformed lookup key raw ∧ e = notANumber key raw := by
  constructor
  · intro failed
    rcases number_cases lookup key with absent | ⟨raw, n, given, spelled⟩ | ⟨raw, malformed⟩
    · rw [number_of_absent absent] at failed
      cases failed
    · rw [number_of_given given spelled] at failed
      cases failed
    · rw [number_of_malformed malformed] at failed
      exact ⟨raw, malformed, (Except.error.inj failed).symm⟩
  · rintro ⟨raw, malformed, rfl⟩
    exact number_of_malformed malformed

end Keys

section Errors

/-- The first key in order that is malformed. -/
def FirstMalformed (lookup : String → Option String) (key raw : String) : Prop :=
  Malformed lookup key raw ∧ ∃ before after, numberKeys = before ++ key :: after ∧
    ∀ earlier ∈ before, ∀ raw, ¬ Malformed lookup earlier raw

theorem exists_first_cons_iff {α : Type} {P Q : α → Prop} {first : α} {items : List α} :
    (∃ before item after, first :: items = before ++ item :: after ∧
      (∀ earlier ∈ before, P earlier) ∧ Q item) ↔
      Q first ∨ P first ∧ ∃ before item after, items = before ++ item :: after ∧
        (∀ earlier ∈ before, P earlier) ∧ Q item := by
  constructor
  · rintro ⟨before, item, after, same, passed, found⟩
    cases before with
    | nil =>
      cases same
      exact .inl found
    | cons earlier before =>
      cases same
      obtain ⟨head, tail⟩ := List.forall_mem_cons.mp passed
      exact .inr ⟨head, before, item, after, rfl, tail, found⟩
  · rintro (found | ⟨head, before, item, after, rfl, tail, found⟩)
    · exact ⟨[], first, items, rfl, List.forall_mem_nil _, found⟩
    · exact ⟨first :: before, item, after, rfl, List.forall_mem_cons.mpr ⟨head, tail⟩, found⟩

/-- Items are taken in order until one fails. -/
theorem mapM_eq_error_iff {α β : Type} {f : α → Except Error β} {items : List α} :
    items.mapM f = .error e ↔ ∃ before item after, items = before ++ item :: after ∧
      (∀ earlier ∈ before, ∀ e, f earlier ≠ .error e) ∧ f item = .error e := by
  induction items with
  | nil =>
    refine iff_of_false (fun failed => by cases failed) ?_
    rintro ⟨before, item, after, same, _⟩
    cases before <;> cases same
  | cons first items ih =>
    rw [exists_first_cons_iff, ← ih, List.mapM_cons]
    cases f first with
    | error other => simp [bind, Except.bind]
    | ok b => cases items.mapM f <;> simp [bind, Except.bind, pure, Except.pure]

theorem ofLookup_eq_error_iff_mapM :
    ofLookup lookup = .error e ↔ numberKeys.mapM (number lookup) = .error e := by
  simp only [ofLookup, numberKeys, List.mapM_cons, List.mapM_nil, bind, Except.bind]
  cases number lookup "LLM_TIMEOUT_SECS" with
  | error => simp
  | ok =>
    cases number lookup "EMBEDDING_DIMENSION" with
    | error => simp
    | ok => cases number lookup "AUDIT_TIMEOUT_SECS" <;> simp [pure, Except.pure]

theorem ofLookup_eq_error_iff : ofLookup lookup = .error e ↔
    ∃ key raw, FirstMalformed lookup key raw ∧ e = notANumber key raw := by
  have fails (key : String) : (∀ e, number lookup key ≠ .error e) ↔
      ∀ raw, ¬ Malformed lookup key raw := by
    simp only [ne_eq, number_eq_error_iff]
    exact ⟨fun succeeds raw malformed => succeeds _ ⟨raw, malformed, rfl⟩,
      fun sound e ⟨raw, malformed, _⟩ => sound raw malformed⟩
  rw [ofLookup_eq_error_iff_mapM, mapM_eq_error_iff]
  simp only [fails, number_eq_error_iff]
  constructor
  · rintro ⟨before, key, after, same, sound, raw, malformed, rfl⟩
    exact ⟨key, raw, ⟨malformed, before, after, same, sound⟩, rfl⟩
  · rintro ⟨key, raw, ⟨malformed, before, after, same, sound⟩, rfl⟩
    exact ⟨before, key, after, same, sound, raw, malformed, rfl⟩

theorem ofLookup_eq_error_iff_quoted : ofLookup lookup = .error e ↔
    ∃ key raw shown, FirstMalformed lookup key raw ∧ Text.QuotedAs raw shown ∧
      e = .configuration (key ++ " must be a whole number, got " ++ shown) := by
  simp only [ofLookup_eq_error_iff, Text.quotedAs_iff]
  constructor
  · rintro ⟨key, raw, first, rfl⟩
    exact ⟨key, raw, _, first, rfl, rfl⟩
  · rintro ⟨key, raw, _, first, rfl, rfl⟩
    exact ⟨key, raw, first, rfl⟩

end Errors

section Fields

theorem some_getD {α β : Type} (f : α → β) (a? : Option α) (default : α) :
    some (f (a?.getD default)) = (a?.map f).or (some (f default)) := by
  cases a? <;> rfl

theorem value?_of_ok (read : ofLookup lookup = .ok s) (field : Field) :
    (field.key ∉ numberKeys ∧
      field.value? s = ((present lookup field.key).map .text).or (field.value? {})) ∨
    (field.key ∈ numberKeys ∧ ∃ n?, number lookup field.key = .ok n? ∧
      field.value? s = (n?.map .number).or (field.value? {})) := by
  unfold ofLookup at read
  obtain ⟨llmTimeout, first, read⟩ := Error.ok_of_bind read
  obtain ⟨dimension, second, read⟩ := Error.ok_of_bind read
  obtain ⟨auditTimeout, third, read⟩ := Error.ok_of_bind read
  cases read
  cases field with
  | llmTimeoutSeconds => exact .inr ⟨by decide, llmTimeout, first, some_getD _ _ _⟩
  | embeddingDimension => exact .inr ⟨by decide, dimension, second, some_getD _ _ _⟩
  | auditTimeoutSeconds => exact .inr ⟨by decide, auditTimeout, third, Option.or_none.symm⟩
  | openaiApiKey | openaiBaseUrl | qdrantUrl | knowledgeDb =>
    exact .inl ⟨by decide, Option.or_none.symm⟩
  | llmProvider | llmModel | ollamaBaseUrl | embeddingModel | qdrantCollection | logLevel =>
    exact .inl ⟨by decide, some_getD _ _ _⟩

theorem ofLookup_follows (read : ofLookup lookup = .ok s) (field : Field) :
    field.Follows lookup (field.value? s) := by
  rcases value?_of_ok read field with ⟨textual, same⟩ | ⟨numeric, n?, known, same⟩
  · rw [same]
    cases text : present lookup field.key with
    | none => exact .default (present_eq_none_iff.mp text)
    | some raw => exact .given (present_eq_some_iff.mp text) (.text textual)
  · rw [same]
    rcases number_cases lookup field.key with absent | ⟨raw, n, given, spelled⟩ | ⟨raw, malformed⟩
    · rw [number_of_absent absent] at known
      cases known
      exact .default absent
    · rw [number_of_given given spelled] at known
      cases known
      exact .given given (.number numeric spelled)
    · rw [number_of_malformed malformed] at known
      cases known

theorem Given.unique {raw' : String} (first : Given lookup key raw)
    (second : Given lookup key raw') : raw = raw' :=
  Option.some.inj (first.1.symm.trans second.1)

theorem Spelled.unique {cs : List Char} {m n : Nat} (first : Spelled m cs)
    (second : Spelled n cs) : m = n := by
  rw [← wholeNumber?_trimChars] at first second
  exact Option.some.inj (first.symm.trans second)

theorem Means.unique {first second : Content} (means : Means key raw first)
    (means' : Means key raw second) : first = second := by
  cases means with
  | text textual =>
    cases means' with
    | text => rfl
    | number numeric => exact absurd numeric textual
  | number numeric spelled =>
    cases means' with
    | text textual => exact absurd numeric textual
    | number _ spelled' => rw [spelled.unique spelled']

theorem Field.Follows.unique (first : field.Follows lookup value)
    (second : field.Follows lookup value') : value = value' := by
  cases first with
  | given given means =>
    cases second with
    | given given' means' =>
      obtain rfl := given.unique given'
      rw [means.unique means']
    | default absent => exact absurd given (absent _)
  | default absent =>
    cases second with
    | given given => exact absurd given (absent _)
    | default => rfl

theorem Field.Follows.alike (alike : Alike lookup lookup' field.key)
    (follows : field.Follows lookup value) : field.Follows lookup' value := by
  rcases alike with same | ⟨absent, absent'⟩
  · have given (raw : String) : Given lookup field.key raw ↔ Given lookup' field.key raw := by
      rw [Given, Given, same]
    cases follows with
    | given known means => exact .given ((given _).mp known) means
    | default absent => exact .default fun raw known => absent raw ((given raw).mpr known)
  · cases follows with
    | given known => exact absurd known (absent _)
    | default => exact .default absent'

theorem eq_of_value? (same : ∀ field : Field, field.value? s = field.value? t) : s = t := by
  have text {a b : String} (same : some (Content.text a) = some (.text b)) : a = b :=
    Content.text.inj (Option.some.inj same)
  have number {m n : Nat} (same : some (Content.number m) = some (.number n)) : m = n :=
    Content.number.inj (Option.some.inj same)
  have text? {a b : Option String} (same : a.map Content.text = b.map .text) : a = b :=
    Option.map_injective (fun _ _ => Content.text.inj) same
  have number? {m n : Option Nat} (same : m.map Content.number = n.map .number) : m = n :=
    Option.map_injective (fun _ _ => Content.number.inj) same
  cases s
  cases t
  rw [Settings.mk.injEq]
  exact ⟨text (same .llmProvider), text (same .llmModel), text (same .ollamaBaseUrl),
    text? (same .openaiApiKey), text? (same .openaiBaseUrl), number (same .llmTimeoutSeconds),
    text (same .embeddingModel), number (same .embeddingDimension), text? (same .qdrantUrl),
    text (same .qdrantCollection), text? (same .knowledgeDb), number? (same .auditTimeoutSeconds),
    text (same .logLevel)⟩

theorem Field.Follows.not_malformed (follows : field.Follows lookup value)
    (numeric : field.key ∈ numberKeys) (raw : String) : ¬ Malformed lookup field.key raw := by
  rintro ⟨given, unspelled⟩
  cases follows with
  | given given' means =>
    obtain rfl := given.unique given'
    cases means with
    | text textual => exact textual numeric
    | number _ spelled => exact unspelled _ spelled
  | default absent => exact absent raw given

theorem exists_key_eq (numeric : key ∈ numberKeys) : ∃ field : Field, field.key = key := by
  simp only [numberKeys, List.mem_cons, List.not_mem_nil, or_false] at numeric
  rcases numeric with rfl | rfl | rfl
  · exact ⟨.llmTimeoutSeconds, rfl⟩
  · exact ⟨.embeddingDimension, rfl⟩
  · exact ⟨.auditTimeoutSeconds, rfl⟩

theorem exists_malformed (failed : ofLookup lookup = .error e) :
    ∃ key ∈ numberKeys, ∃ raw, Malformed lookup key raw := by
  obtain ⟨key, raw, ⟨malformed, before, after, same, _⟩, _⟩ := ofLookup_eq_error_iff.mp failed
  exact ⟨key, same ▸ List.mem_append_right _ List.mem_cons_self, raw, malformed⟩

theorem exists_error_iff : (∃ e, ofLookup lookup = .error e) ↔
    ∃ key ∈ numberKeys, ∃ raw, Malformed lookup key raw := by
  constructor
  · rintro ⟨e, failed⟩
    exact exists_malformed failed
  · rintro ⟨key, numeric, raw, malformed⟩
    obtain ⟨field, rfl⟩ := exists_key_eq numeric
    cases read : ofLookup lookup with
    | error e => exact ⟨e, rfl⟩
    | ok s => exact absurd malformed ((ofLookup_follows read field).not_malformed numeric raw)

theorem ofLookup_eq_ok_iff : ofLookup lookup = .ok s ↔
    ∀ field : Field, field.Follows lookup (field.value? s) := by
  refine ⟨fun read field => ofLookup_follows read field, fun follows => ?_⟩
  cases read : ofLookup lookup with
  | error e =>
    obtain ⟨key, numeric, raw, malformed⟩ := exists_malformed read
    obtain ⟨field, rfl⟩ := exists_key_eq numeric
    exact absurd malformed ((follows field).not_malformed numeric raw)
  | ok t =>
    exact congrArg Except.ok
      (eq_of_value? fun field => (ofLookup_follows read field).unique (follows field))

theorem value?_of_alike (read : ofLookup lookup = .ok s) (read' : ofLookup lookup' = .ok t)
    (alike : Alike lookup lookup' field.key) : field.value? s = field.value? t :=
  ((ofLookup_follows read field).alike alike).unique (ofLookup_follows read' field)

end Fields

/-- Settings cannot be read exactly if one of three keys holds a text that is neither blank nor a
whole number of 64 bits, and the error names the first of these keys and quotes its text, so that it
can be read back, whatever other keys hold. Else each setting is what its own key holds, without the
blanks around a number, or its default, and this is all that settings are. So where two environments
hold the same under a key, or nothing but blanks, the setting of this key is the same, and a change
under one key changes the setting of no other. -/
theorem settings_follow_keys (lookup : String → Option String) :
    ((∃ e, ofLookup lookup = .error e) ↔
      ∃ key ∈ ["LLM_TIMEOUT_SECS", "EMBEDDING_DIMENSION", "AUDIT_TIMEOUT_SECS"],
        ∃ raw, Malformed lookup key raw) ∧
    (∀ e, ofLookup lookup = .error e ↔ ∃ key raw shown, FirstMalformed lookup key raw ∧
      Text.QuotedAs raw shown ∧
      e = .configuration (key ++ " must be a whole number, got " ++ shown)) ∧
    (∀ raw raw' shown, Text.QuotedAs raw shown → Text.QuotedAs raw' shown → raw = raw') ∧
    (∀ s, ofLookup lookup = .ok s ↔ ∀ field : Field, field.Follows lookup (field.value? s)) ∧
    (∀ lookup' s s' (field : Field), ofLookup lookup = .ok s → ofLookup lookup' = .ok s' →
      Alike lookup lookup' field.key → field.value? s = field.value? s') ∧
    (∀ key changed s s' (field : Field), ofLookup lookup = .ok s →
      ofLookup (Function.update lookup key changed) = .ok s' → field.key ≠ key →
      field.value? s = field.value? s') ∧
    Function.Injective Field.key := by
  refine ⟨exists_error_iff, fun e => ofLookup_eq_error_iff_quoted,
    fun raw raw' shown first second => first.unique second, fun s => ofLookup_eq_ok_iff,
    fun lookup' s s' field read read' alike => value?_of_alike read read' alike,
    fun key changed s s' field read read' other => value?_of_alike read read' (.inl ?_),
    Field.key_injective⟩
  rw [Function.update_of_ne other]

/-- A number that is changed leaves another number as it is. -/
theorem settings_follow_keys_two_numbers :
    let lookup (key : String) :=
      if key = "LLM_TIMEOUT_SECS" then some " +007\n"
      else if key = "EMBEDDING_DIMENSION" then some "  " else none
    let changed := Function.update lookup "EMBEDDING_DIMENSION" (some "3")
    let s : Settings := { llmTimeoutSeconds := 7 }
    let s' : Settings := { llmTimeoutSeconds := 7, embeddingDimension := 3 }
    ofLookup lookup = .ok s ∧ ofLookup changed = .ok s' ∧
      Field.llmTimeoutSeconds.key ≠ "EMBEDDING_DIMENSION" ∧
      Field.llmTimeoutSeconds.value? s = Field.llmTimeoutSeconds.value? s' := by
  intro lookup changed s s'
  have read : ofLookup lookup = .ok s := by decide +kernel
  have read' : ofLookup changed = .ok s' := by decide +kernel
  have other : Field.llmTimeoutSeconds.key ≠ "EMBEDDING_DIMENSION" := by decide
  obtain ⟨_, _, _, _, _, unchanged, _⟩ := settings_follow_keys lookup
  exact ⟨read, read', other, unchanged _ _ _ _ _ read read' other⟩

/-- Two keys are malformed. -/
example : (ofLookup fun key =>
      if key = "AUDIT_TIMEOUT_SECS" then some "-5"
      else if key = "EMBEDDING_DIMENSION" then some "18446744073709551616" else none) =
    .error (notANumber "EMBEDDING_DIMENSION" "18446744073709551616") := by decide +kernel

end ClaimAudit.Settings
