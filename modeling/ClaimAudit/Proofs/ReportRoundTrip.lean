import ClaimAudit.Proofs.JsonRoundTrip
import ClaimAudit.Report.Json
import Mathlib.Data.Option.Basic

/-! Reports are read back as they were written.

A decoder gives a value back when it is handed the tree that the value is written as, with
enough levels of nesting left. This holds of lists if it holds of their items, of records if it
holds of their fields, and of tagged choices if it holds of their kinds and no field has the
name of the tag.
-/

set_option autoImplicit false

namespace ClaimAudit.Json

open ClaimAudit.Json (Decoder Source Value)

namespace Decode

variable {α : Type} {source : Source}

/-- A decoder gives back what was written, if that many levels of nesting are left. -/
def Restores (decode : Decoder α) (json : α → Value) (levels : Nat) (a : α) : Prop :=
  ∀ source : Source, levels ≤ source.levels → decode source (json a).tree = some a

theorem text_render {v : Value} (decode : Decoder α) (survive : ∀ n ∈ v.numbers, n.Survives) :
    text decode v.render = decode {} v.tree := by
  rw [text, Value.render, String.toList_ofList, read?_chars survive]
  rfl

theorem Restores.text {decode : Decoder α} {json : α → Value} {levels : Nat} {a : α}
    (restores : Restores decode json levels a) (shallow : levels ≤ maxLevels)
    (survive : ∀ n ∈ (json a).numbers, n.Survives) :
    Decode.text decode (json a).render = some a := by
  rw [text_render decode survive]
  exact restores {} shallow

theorem inner?_eq (deep : 0 < source.levels) :
    source.inner? = some { source with levels := source.levels - 1 } := by
  obtain ⟨levels, held⟩ := source
  obtain ⟨n, rfl⟩ := Nat.exists_eq_succ_of_ne_zero (Nat.ne_of_gt deep)
  rfl

theorem trees_eq (items : List Value) : trees items = items.map Value.tree := by
  induction items with
  | nil => rfl
  | cons item rest ih => rw [trees, ih, List.map_cons]

theorem memberTrees_eq (members : List (String × Value)) :
    memberTrees members = members.map fun (key, item) => (some key, item.tree) := by
  induction members with
  | nil => rfl
  | cons member rest ih =>
    obtain ⟨key, item⟩ := member
    rw [memberTrees, ih, List.map_cons]

theorem Restores.string (text : String) : Restores string Value.string 0 text := fun _ _ => rfl

theorem Restores.bool (b : Bool) : Restores bool Value.bool 0 b := fun _ _ => rfl

theorem Restores.float (x : Float) : Restores float Value.ofFloat 0 x := fun _ _ => rfl

theorem Restores.word64 {n : Nat} (small : n < 0x10000000000000000) :
    Restores word64 Value.ofNat 0 n := by
  intro source _
  show (if n < 0x10000000000000000 then some n else none) = some n
  rw [if_pos small]

theorem Restores.list {decode : Decoder α} {json : α → Value} {levels : Nat} {items : List α}
    (each : ∀ a ∈ items, Restores decode json levels a) :
    Restores (list decode) (fun items => .array (items.map json)) (levels + 1) items := by
  intro source deep
  rw [Value.tree, trees_eq, List.map_map, Decode.list, inner?_eq (by omega)]
  show ((items.map (Value.tree ∘ json)).mapM (decode _)) = some items
  induction items with
  | nil => rfl
  | cons a items ih =>
    have first := each a List.mem_cons_self { source with levels := source.levels - 1 }
      (Nat.le_sub_one_of_lt deep)
    rw [List.map_cons, List.mapM_cons, Function.comp_apply, first,
      ih fun b member => each b (List.mem_cons_of_mem a member)]
    rfl

theorem Restores.optional {decode : Decoder α} {json : α → Value} {levels : Nat} {a : α}
    (restores : Restores decode json levels a)
    (filled : (json a).tree ≠ .null) :
    Restores (Decode.optional decode) (Value.ofOption json) levels (some a) := by
  intro source deep
  have read : decode source (json a).tree = some a := restores source deep
  show Decode.optional decode source (json a).tree = some (some a)
  unfold Decode.optional
  split
  · rename_i null
    exact absurd null filled
  · rw [read]
    rfl

theorem Restores.value {v : Value} (ordered : v.Ordered) : Restores value id v.depth v := by
  intro source deep
  obtain ⟨w, found, same⟩ := exists_value?_tree v deep
  rw [same ordered] at found
  exact found

theorem Restores.members {notes : Members} (ordered : MembersOrdered notes) :
    Restores (members Decode.value) Value.object (membersDepth notes + 1) notes := by
  intro source deep
  have each := membersOrdered_iff.mp ordered
  have below : ∀ member ∈ notes, member.2.depth ≤ source.levels - 1 :=
    membersDepth_le_iff.mp (Nat.le_sub_one_of_lt deep)
  rw [Value.tree, memberTrees_eq, Decode.members, inner?_eq (by omega)]
  clear deep ordered
  show (notes.map _).mapM _ = some notes
  induction notes with
  | nil => rfl
  | cons member rest ih =>
    obtain ⟨first, others⟩ := List.forall_mem_cons.mp each
    obtain ⟨shallow, rest'⟩ := List.forall_mem_cons.mp below
    rw [List.map_cons, List.mapM_cons, ih others rest']
    have read := Restores.value first { source with levels := source.levels - 1 } shallow
    simp only [id] at read
    simp only [bind, Option.bind_some, read]
    rfl

theorem key_ne_of_absent {members : List (String × Value)} {name : String}
    (absent : name ∉ members.map (·.1)) :
    ∀ entry ∈ memberTrees members, entry.1 ≠ some name := by
  rw [memberTrees_eq]
  intro entry inside
  obtain ⟨member, own, rfl⟩ := List.mem_map.mp inside
  intro same
  exact absent (List.mem_map.mpr ⟨member, own, Option.some.inj same⟩)

theorem single?_cons_self {members : List (String × Value)} {name : String} (tree : Tree)
    (absent : name ∉ members.map (·.1)) :
    single? name ((some name, tree) :: memberTrees members) = some (some tree) := by
  have others : (memberTrees members).filter (fun entry => entry.1 = some name) = [] := by
    rw [List.filter_eq_nil_iff]
    exact fun entry inside same =>
      key_ne_of_absent absent entry inside (of_decide_eq_true same)
  simp only [single?, decide_true, List.filter_cons_of_pos, others]

theorem single?_memberTrees {members : List (String × Value)}
    (distinct : (members.map (·.1)).Nodup) (name : String) :
    single? name (memberTrees members) = some ((members.lookup name).map Value.tree) := by
  induction members with
  | nil => rfl
  | cons member rest ih =>
    obtain ⟨key, item⟩ := member
    obtain ⟨fresh, distinct⟩ := List.nodup_cons.mp distinct
    by_cases same : key = name
    · subst same
      rw [memberTrees, single?_cons_self item.tree fresh, List.lookup_cons_self, Option.map_some]
    · have passed : single? name (memberTrees ((key, item) :: rest)) =
          single? name (memberTrees rest) := by
        simp only [single?, memberTrees, Option.some.injEq, same, decide_false, Bool.false_eq_true,
          not_false_eq_true, List.filter_cons_of_neg]
      have differ : (name == key) = false := by simpa using Ne.symm same
      rw [passed, ih distinct, List.lookup_cons, differ]

theorem mapM_some {β : Type} (f : β → α) (items : List β) :
    items.mapM (fun item => some (f item)) = some (items.map f) := by
  induction items with
  | nil => rfl
  | cons item items ih =>
    rw [List.mapM_cons, ih]
    rfl

section Fields

variable {names : List String} {members : List (String × Value)} {decode : Decoder α}
  {json : α → Value} {levels : Nat} {a : α}

def fieldsOf (source : Source) (names : List String) (members : List (String × Value)) : Fields :=
  ⟨source, false, names.map fun name => (name, (members.lookup name).map Value.tree)⟩

theorem tree?_fieldsOf {name : String} {value : Value} (named : name ∈ names)
    (found : members.lookup name = some value) :
    (fieldsOf source names members).tree? name = some value.tree := by
  have entry : (fieldsOf source names members).found.lookup name = some (some value.tree) := by
    simp only [fieldsOf]
    induction names with
    | nil => cases named
    | cons other names ih =>
      rw [List.map_cons, List.lookup_cons]
      by_cases same : name = other
      · subst same
        simp [found]
      · have later : name ∈ names := (List.mem_cons.mp named).resolve_left same
        have differ : (name == other) = false := by simpa using same
        rw [differ]
        exact ih later
  rw [Fields.tree?, entry]
  rfl

theorem Restores.required (restores : Restores decode json levels a)
    (deep : levels ≤ source.levels) {name : String} (named : name ∈ names)
    (found : members.lookup name = some (json a)) :
    (fieldsOf source names members).required name decode = some a := by
  rw [Fields.required, tree?_fieldsOf named found]
  exact restores source deep

theorem Restores.orElse (restores : Restores decode json levels a)
    (deep : levels ≤ source.levels) {name : String} (default : α) (named : name ∈ names)
    (found : members.lookup name = some (json a)) :
    (fieldsOf source names members).orElse name default decode = some a := by
  rw [Fields.orElse, tree?_fieldsOf named found]
  exact restores source deep

theorem fields_object (names : List String) (members : List (String × Value))
    (distinct : (members.map (·.1)).Nodup) (deep : 0 < source.levels) :
    fields names source (Value.object members).tree =
      some (fieldsOf { source with levels := source.levels - 1 } names members) := by
  have keyed : (memberTrees members).all (fun entry => entry.1.isSome) = true := by
    rw [memberTrees_eq]
    simp
  simp only [Value.tree, fields, inner?_eq deep, keyed, single?_memberTrees distinct,
    Option.map_some, mapM_some]
  rfl

end Fields

/-- A choice that is tagged in an object is left to the decoder of its kind, which is handed the
other members. -/
theorem tagged_object {tag kind : String} {kinds : List (String × Decoder α)}
    (decode : Decoder α) (members : List (String × Value))
    (found : kinds.lookup kind = some decode) (absent : tag ∉ members.map (·.1))
    (deep : membersDepth members < source.levels) :
    tagged tag kinds source (Value.object ((tag, .string kind) :: members)).tree =
      decode { source with held := true } (Value.object members).tree := by
  have whole : (Value.object ((tag, .string kind) :: members)).depth ≤ source.levels := by
    simp only [Value.depth, membersDepth]
    omega
  obtain ⟨_, valued, _⟩ := exists_value?_tree _ whole
  have payload : (memberTrees members).filter (fun entry => entry.1 ≠ some tag) =
      memberTrees members := by
    rw [List.filter_eq_self]
    exact fun entry inside => decide_eq_true (key_ne_of_absent absent entry inside)
  simp only [tagged, valued, bind, Option.bind_some]
  simp only [Value.tree, memberTrees, single?_cons_self _ absent, Option.bind_some, tagKind?, found,
    ne_eq, not_true_eq_false, decide_false, Bool.false_eq_true, not_false_eq_true,
    List.filter_cons_of_neg]
  rw [payload]

end Decode

end ClaimAudit.Json

namespace ClaimAudit

open ClaimAudit.Json (Value)
open ClaimAudit.Json.Decode (Restores)

theorem Claim.restores (c : Claim) : Restores Claim.decode Claim.json 0 c := fun _ _ => rfl

theorem Status.restores (s : Status) : Restores Status.decode Status.json 0 s :=
  fun _ _ => Status.ofString?_name s

theorem Stage.restores (s : Stage) : Restores Stage.decode Stage.json 0 s := by
  intro source _
  cases s <;> rfl

theorem Judgment.restores (j : Judgment Float) : Restores Judgment.decode Judgment.json 2 j := by
  intro source deep
  have distinct : (["claim", "status", "confidence", "evidence"] : List String).Nodup := by decide
  have entered : 0 < source.levels := by omega
  have read := Json.Decode.fields_object ["claim", "status", "confidence", "evidence"]
    [("claim", j.claim.json), ("status", j.status.json),
      ("confidence", .ofFloat j.confidence), ("evidence", .strings j.evidence)] distinct entered
  have evidence := Restores.list fun text (_ : text ∈ j.evidence) => Restores.string text
  have inner : 1 ≤ source.levels - 1 := by omega
  simp only [Judgment.decode, Judgment.json, read, bind, Option.bind_some]
  rw [j.claim.restores.required (Nat.zero_le _) (by decide) rfl,
    j.status.restores.required (Nat.zero_le _) (by decide) rfl,
    (Restores.float j.confidence).required (Nat.zero_le _) (by decide) rfl,
    evidence.required inner (by decide) rfl]
  rfl

def Degradation.claimIndex? : Degradation → Option Nat
  | .retrievalDisabled | .extractionFallback => none
  | .verificationFallback claimIndex => some claimIndex

theorem Degradation.restores_fallback {claimIndex : Nat}
    (small : claimIndex < 0x10000000000000000) :
    Restores Degradation.decodeFallback (fun _ => .object [("claim_index", .ofNat claimIndex)]) 1
      (.verificationFallback claimIndex) := by
  intro source deep
  have read := Json.Decode.fields_object ["claim_index"] [("claim_index", .ofNat claimIndex)]
    (by simp) deep
  simp only [Degradation.decodeFallback, read, bind, Option.bind_some]
  rw [(Restores.word64 small).required (Nat.zero_le _) (by decide) rfl]
  rfl

theorem Degradation.restores {d : Degradation}
    (small : ∀ n, d.claimIndex? = some n → n < 0x10000000000000000) :
    Restores Degradation.decode Degradation.json 1 d := by
  intro source deep
  cases d with
  | retrievalDisabled =>
    exact Json.Decode.tagged_object (Json.Decode.empty Degradation.retrievalDisabled) [] rfl
      List.not_mem_nil deep
  | extractionFallback =>
    exact Json.Decode.tagged_object (Json.Decode.empty Degradation.extractionFallback) [] rfl
      List.not_mem_nil deep
  | verificationFallback claimIndex =>
    have untagged : "kind" ∉ (["claim_index"] : List String) := by decide
    refine (Json.Decode.tagged_object Degradation.decodeFallback
      [("claim_index", .ofNat claimIndex)] rfl untagged deep).trans ?_
    exact Degradation.restores_fallback (small claimIndex rfl) _ deep

def Findings.floats (f : Findings) : List Float :=
  f.faithfulness :: f.judgments.map (·.confidence)

def Findings.counts (f : Findings) : List Nat :=
  f.evidenceCount :: f.degradations.filterMap Degradation.claimIndex?

theorem Findings.restores {f : Findings} (small : ∀ n ∈ f.counts, n < 0x10000000000000000) :
    Restores Findings.decode Findings.json 4 f := by
  intro source deep
  have distinct : Findings.fieldNames.Nodup := by decide
  have entered : 0 < source.levels := by omega
  have read := Json.Decode.fields_object Findings.fieldNames f.members distinct entered
  have claims := Restores.list fun c (_ : c ∈ f.claims) => c.restores
  have judgments := Restores.list fun j (_ : j ∈ f.judgments) => j.restores
  have degradations := Restores.list fun d (own : d ∈ f.degradations) =>
    Degradation.restores fun n position =>
      small n (List.mem_cons_of_mem _ (List.mem_filterMap.mpr ⟨d, own, position⟩))
  have evidenceCount := Restores.word64 (small f.evidenceCount List.mem_cons_self)
  have one : 1 ≤ source.levels - 1 := by omega
  have two : 2 ≤ source.levels - 1 := by omega
  have three : 3 ≤ source.levels - 1 := by omega
  simp only [Findings.decode, Findings.json, read, bind, Option.bind_some]
  rw [(Restores.string f.requestId).required (Nat.zero_le _) (by decide) rfl,
    claims.required one (by decide) rfl, judgments.required three (by decide) rfl,
    (Restores.float f.faithfulness).required (Nat.zero_le _) (by decide) rfl,
    (Restores.bool f.hallucination).required (Nat.zero_le _) (by decide) rfl,
    (Restores.string f.reasoningTrace).required (Nat.zero_le _) (by decide) rfl,
    degradations.orElse two [] (by decide) rfl,
    evidenceCount.orElse (Nat.zero_le _) 0 (by decide) rfl]
  rfl

theorem Failure.restores (f : Failure) : Restores Failure.decode Failure.json 1 f := by
  intro source deep
  have distinct : (["request_id", "stage", "error"] : List String).Nodup := by decide
  have read := Json.Decode.fields_object ["request_id", "stage", "error"] f.members distinct deep
  simp only [Failure.decode, Failure.json, read, bind, Option.bind_some]
  rw [(Restores.string f.requestId).required (Nat.zero_le _) (by decide) rfl,
    f.stage.restores.required (Nat.zero_le _) (by decide) rfl,
    (Restores.string f.error).required (Nat.zero_le _) (by decide) rfl]
  rfl

section Report

theorem itemsDepth_map_le {α : Type} {json : α → Value} {items : List α} {levels : Nat}
    (each : ∀ a ∈ items, (json a).depth ≤ levels) : Json.itemsDepth (items.map json) ≤ levels := by
  induction items with
  | nil => exact Nat.zero_le _
  | cons a items ih =>
    exact Nat.max_le.mpr ⟨each a List.mem_cons_self,
      ih fun b member => each b (List.mem_cons_of_mem a member)⟩

theorem Findings.membersDepth_le (f : Findings) : Json.membersDepth f.members ≤ 3 := by
  have claims : Json.itemsDepth (f.claims.map Claim.json) ≤ 0 :=
    itemsDepth_map_le fun c _ => Nat.le_refl 0
  have quotes (j : Judgment Float) : Json.itemsDepth (j.evidence.map Value.string) ≤ 0 :=
    itemsDepth_map_le fun text _ => Nat.le_refl 0
  have judgments : Json.itemsDepth (f.judgments.map Judgment.json) ≤ 2 := by
    refine itemsDepth_map_le fun j _ => ?_
    have evidence := quotes j
    simp only [Judgment.json, Value.depth, Json.membersDepth, Claim.json, Status.json,
      Value.ofFloat, Value.strings]
    omega
  have degradations : Json.itemsDepth (f.degradations.map Degradation.json) ≤ 1 := by
    refine itemsDepth_map_le fun d _ => ?_
    cases d <;> simp [Degradation.json, Value.depth, Json.membersDepth, Value.ofNat]
  simp only [Findings.members, Value.depth, Json.membersDepth, Value.ofFloat, Value.ofNat]
  omega

def Report.counts : Report → List Nat
  | .completed f => f.counts
  | .failed _ => []

def Report.floats : Report → List Float
  | .completed f => f.floats
  | .failed _ => []

def Report.tag : Report → String
  | .completed _ => "completed"
  | .failed _ => "failed"

def Report.payload : Report → List (String × Value)
  | .completed f => f.members
  | .failed f => f.members

theorem Report.json_eq (r : Report) :
    r.json = .object (("status", .string r.tag) :: r.payload) := by
  cases r <;> rfl

theorem Report.distinct_payload (r : Report) : ("status" :: r.payload.map (·.1)).Nodup := by
  cases r with
  | completed f =>
    show ("status" :: Findings.fieldNames).Nodup
    decide
  | failed f =>
    show (["status", "request_id", "stage", "error"] : List String).Nodup
    decide

theorem Report.membersDepth_payload_le (r : Report) : Json.membersDepth r.payload ≤ 3 := by
  cases r with
  | completed f => exact f.membersDepth_le
  | failed f => exact Nat.zero_le 3

theorem Report.restores {r : Report} (small : ∀ n ∈ r.counts, n < 0x10000000000000000) :
    Restores Report.decode Report.json 4 r := by
  intro source deep
  have untagged : "status" ∉ r.payload.map (·.1) := (List.nodup_cons.mp r.distinct_payload).1
  have shallow : Json.membersDepth r.payload < source.levels :=
    Nat.lt_of_le_of_lt r.membersDepth_payload_le deep
  rw [r.json_eq]
  cases r with
  | completed f =>
    refine (Json.Decode.tagged_object
      (fun source tree => (Findings.decode source tree).map Report.completed) f.members
      rfl untagged shallow).trans ?_
    exact congrArg (Option.map Report.completed)
      (Findings.restores (f := f) small { source with held := true } deep)
  | failed f =>
    refine (Json.Decode.tagged_object
      (fun source tree => (Failure.decode source tree).map Report.failed) f.members
      rfl untagged shallow).trans ?_
    exact congrArg (Option.map Report.failed)
      (f.restores { source with held := true } (Nat.le_trans (by decide) deep))

theorem exists_of_mem_itemNumbers {α : Type} {json : α → Value} {items : List α}
    {n : Json.Number} (member : n ∈ Json.itemNumbers (items.map json)) :
    ∃ a ∈ items, n ∈ (json a).numbers := by
  induction items with
  | nil => cases member
  | cons a items ih =>
    rcases List.mem_append.mp member with here | later
    · exact ⟨a, List.mem_cons_self, here⟩
    · obtain ⟨b, own, found⟩ := ih later
      exact ⟨b, List.mem_cons_of_mem a own, found⟩

theorem Degradation.number_json {d : Degradation} {n : Json.Number} (member : n ∈ d.json.numbers) :
    ∃ k, d.claimIndex? = some k ∧ n = .whole k := by
  cases d with
  | retrievalDisabled | extractionFallback => cases member
  | verificationFallback claimIndex =>
    refine ⟨claimIndex, rfl, ?_⟩
    simpa [json, Value.numbers, Json.memberNumbers, Value.ofNat] using member

theorem Judgment.number_json {j : Judgment Float} {n : Json.Number} (member : n ∈ j.json.numbers) :
    n = .real j.confidence := by
  have quotes : Json.itemNumbers (j.evidence.map Value.string) = [] := by
    refine List.eq_nil_iff_forall_not_mem.mpr fun n inside => ?_
    obtain ⟨_, _, none⟩ := exists_of_mem_itemNumbers inside
    cases none
  simpa [json, Value.numbers, Json.memberNumbers, Claim.json, Status.json, Value.ofFloat,
    Value.strings, quotes] using member

theorem Report.number_json {r : Report} {n : Json.Number} (member : n ∈ r.json.numbers) :
    (∃ x ∈ r.floats, n = .real x) ∨ ∃ k ∈ r.counts, n = .whole k := by
  cases r with
  | failed f =>
    simp [json, Failure.members, Value.numbers, Json.memberNumbers, Stage.json] at member
  | completed f =>
    simp only [json, Findings.members, Value.numbers, Json.memberNumbers, Value.ofFloat,
      Value.ofNat, List.nil_append, List.append_nil, List.mem_append, List.mem_singleton] at member
    rcases member with claim | judgment | score | degradation | count
    · obtain ⟨_, _, none⟩ := exists_of_mem_itemNumbers claim
      cases none
    · obtain ⟨j, own, found⟩ := exists_of_mem_itemNumbers judgment
      exact .inl ⟨j.confidence, List.mem_cons_of_mem _ (List.mem_map_of_mem own),
        Judgment.number_json found⟩
    · exact .inl ⟨f.faithfulness, List.mem_cons_self, score⟩
    · obtain ⟨d, own, found⟩ := exists_of_mem_itemNumbers degradation
      obtain ⟨k, position, same⟩ := Degradation.number_json found
      exact .inr ⟨k, List.mem_cons_of_mem _ (List.mem_filterMap.mpr ⟨d, own, position⟩), same⟩
    · exact .inr ⟨f.evidenceCount, List.mem_cons_self, count⟩

/-- What an object is read as is told by its tag, whatever else it holds. -/
theorem Report.tag_of_decode {entries : List (Option String × Json.Tree)} {r : Report}
    (decoded : Report.decode {} (.object entries) = some r) :
    Json.Decode.single? "status" entries = some (some (.string (some r.tag))) := by
  simp only [Report.decode, Json.Decode.tagged, bind, Option.bind_eq_some_iff] at decoded
  obtain ⟨_, _, member, found, kind, present, decode, known, decoded⟩ := decoded
  rw [found, present]
  unfold Json.Decode.tagKind? at known
  split at known
  · rename_i spelling
    by_cases completed : spelling = "completed"
    · subst completed
      obtain rfl := Option.some.inj known
      obtain ⟨f, _, rfl⟩ := Option.map_eq_some_iff.mp decoded
      rfl
    · by_cases failed : spelling = "failed"
      · subst failed
        obtain rfl := Option.some.inj known
        obtain ⟨f, _, rfl⟩ := Option.map_eq_some_iff.mp decoded
        rfl
      · have unknown : (spelling == "completed") = false ∧ (spelling == "failed") = false := by
          simp [completed, failed]
        simp only [List.lookup_cons, unknown, List.lookup_nil] at known
        cases known
  · simp at known
  · cases known

theorem survives_real {x : Float} {value : Number.Dyadic} (finite : Number.read x = .finite value)
    (exact : ∀ text, Json.realChars? x = some text →
      (Json.Literal.ofChars? text).bind Json.Literal.number? = some (.real x)) :
    (Json.Number.real x).Survives := by
  cases written : Json.realChars? x with
  | none => simp [Json.realChars?, finite] at written
  | some text =>
    obtain ⟨literal, read, meant⟩ := Option.bind_eq_some_iff.mp (exact text written)
    exact ⟨text, literal, written, read, meant⟩

/-- A report whose floating-point numbers are finite, and read back exactly from their own texts,
and whose counts fit into 64 bits, is read back from its text. What an object is read as is told
by its tag alone, which is no name of another member, so that no findings are taken for a failure
and no failure for findings; and every status, stage and degradation comes back as itself. -/
theorem report_read_back (r : Report)
    (finite : ∀ x ∈ r.floats, ∃ value, Number.read x = .finite value)
    (exact : ∀ x ∈ r.floats, ∀ text, Json.realChars? x = some text →
      (Json.Literal.ofChars? text).bind Json.Literal.number? = some (.real x))
    (small : ∀ n ∈ r.counts, n < 0x10000000000000000) :
    Json.Decode.text Report.decode r.json.render = some r ∧
    r.json = .object (("status", .string r.tag) :: r.payload) ∧
    ("status" :: r.payload.map (·.1)).Nodup ∧
    (∀ entries read, Report.decode {} (.object entries) = some read →
      Json.Decode.single? "status" entries = some (some (.string (some read.tag)))) ∧
    (∀ status : Status, Json.Decode.text Status.decode status.json.render = some status) ∧
    (∀ stage : Stage, Json.Decode.text Stage.decode stage.json.render = some stage) ∧
    ∀ d : Degradation, (∀ n, d.claimIndex? = some n → n < 0x10000000000000000) →
      Json.Decode.text Degradation.decode d.json.render = some d := by
  have survive : ∀ n ∈ r.json.numbers, n.Survives := by
    intro n member
    rcases r.number_json member with ⟨x, own, rfl⟩ | ⟨k, own, rfl⟩
    · obtain ⟨value, read⟩ := finite x own
      exact survives_real read (exact x own)
    · exact Json.survives_whole (small k own)
  refine ⟨(Report.restores small).text (by decide) survive, r.json_eq, r.distinct_payload,
    fun _ _ => Report.tag_of_decode, fun status => ?_, fun stage => ?_, fun d within => ?_⟩
  · exact status.restores.text (Nat.zero_le _) fun n none => nomatch none
  · exact stage.restores.text (Nat.zero_le _) fun n none => nomatch none
  · refine (Degradation.restores within).text (by decide) fun n member => ?_
    obtain ⟨k, position, rfl⟩ := Degradation.number_json member
    exact Json.survives_whole (within k position)

/-- The score and the confidence of this report come back from their texts. -/
theorem report_read_back_degraded :
    let r : Report := .completed
      { requestId := "a \"quoted\"\none"
        claims := [⟨"Water is wet."⟩]
        judgments := [⟨⟨"Water is wet."⟩, .unknown, 0.9, ["[Seas] are wet.", "\x01"]⟩]
        faithfulness := 0.9
        hallucination := false
        reasoningTrace := "Faithfulness Score: 0.90/1.00"
        degradations := [.retrievalDisabled, .verificationFallback 0]
        evidenceCount := 3 }
    (∀ x ∈ r.floats, ∃ value, Number.read x = .finite value) ∧
      (∀ x ∈ r.floats, ∀ text, Json.realChars? x = some text →
        (Json.Literal.ofChars? text).bind Json.Literal.number? = some (.real x)) ∧
      (∀ n ∈ r.counts, n < 0x10000000000000000) ∧
      Json.Decode.text Report.decode r.json.render = some r := by
  intro r
  have nine : ∀ x ∈ r.floats, x = 0.9 := by simp [r, Report.floats, Findings.floats]
  have finite : ∀ x ∈ r.floats, ∃ value, Number.read x = .finite value := by
    intro x own
    rw [nine x own]
    exact ⟨⟨false, 8106479329266893, -53⟩, by decide +kernel⟩
  have exact : ∀ x ∈ r.floats, ∀ text, Json.realChars? x = some text →
      (Json.Literal.ofChars? text).bind Json.Literal.number? = some (.real x) := by
    intro x own text written
    rw [nine x own] at written ⊢
    have spelled : Json.realChars? 0.9 = some ['0', '.', '9'] := by decide +kernel
    obtain rfl := Option.some.inj (written.symm.trans spelled)
    -- The point moves by one place, which is one division.
    have scaled : Json.scale (Float.ofNat 9) (-1) = some 0.9 := by
      rw [Json.scale]
      decide +kernel
    have read : Json.Literal.ofChars? ['0', '.', '9'] = some ⟨false, ['0'], ['9'], none⟩ := by
      decide
    rw [read]
    show (Json.scale (Float.ofNat 9) (-1)).map _ = _
    rw [scaled]
    rfl
  have small : ∀ n ∈ r.counts, n < 0x10000000000000000 := by decide
  exact ⟨finite, exact, small, (report_read_back r finite exact small).1⟩

end Report

end ClaimAudit
