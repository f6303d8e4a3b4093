import ClaimAudit.Knowledge.Memory
import ClaimAudit.Knowledge.Qdrant
import ClaimAudit.Proofs.ReportRoundTrip
import Mathlib.Data.List.Forall2

/-! What is read from the points of a vector server.

The text of an entry is sent among its notes, under a key of its own, and taken out of them when a
point is read. So every other note comes back, whatever its key and its value, and a note under the
key of the text does not: it gives way to the text before it is sent.
-/

set_option autoImplicit false

namespace ClaimAudit

namespace Knowledge.Qdrant

open Json (Source)
open Json.Decode (Restores)

variable {entry : Entry} {entries : List Entry} {source : Source} {v : Json.Value}

inductive Returned (entry : Entry) : Json.Value → Prop where
  | point {members : Json.Members} {id : Json.Value} {score : Json.Number}
    (named : ("id", id) ∈ members) (scored : ("score", .number score) ∈ members)
    (carried : ("payload", .object (payload entry)) ∈ members) : Returned entry (.object members)

inductive Answers (entries : List Entry) : Json.Value → Prop where
  | points {body result : Json.Members} {points : List Json.Value}
    (answered : ("result", .object result) ∈ body) (listed : ("points", .array points) ∈ result)
    (returned : List.Forall₂ Returned entries points) : Answers entries (.object body)

def reading (carried : Metadata) : String × Metadata :=
  (((Json.Members.get? textKey carried).bind Json.Value.string?).getD "",
    Json.Members.erase textKey carried)

theorem reading_payload (entry : Entry) :
    reading (payload entry) = (entry.text, Json.Members.erase textKey entry.metadata) := by
  rw [reading, payload, Json.Members.get?_set, Json.Members.erase_set]
  rfl

theorem decode_returned (returned : Returned entry v) (ordered : v.Ordered)
    (shallow : v.depth ≤ source.levels) :
    ∃ p, ScoredPoint.decode source v.tree = some p ∧ p.payload = payload entry := by
  obtain @⟨members, id, score, named, scored, carried⟩ := returned
  obtain ⟨increasing, ordered⟩ := ordered
  have distinct := Json.Members.nodup_of_increasing increasing
  have entered : 0 < source.levels := Nat.lt_of_lt_of_le (Nat.succ_pos _) shallow
  have each := Json.membersOrdered_iff.mp ordered
  have below : ∀ member ∈ members, member.2.depth ≤ source.levels - 1 :=
    Json.membersDepth_le_iff.mp (Nat.le_sub_one_of_lt shallow)
  have read := Json.Decode.fields_object ["id", "score", "payload"] members distinct entered
  obtain ⟨x, number⟩ : ∃ x, Restores Json.Decode.float32 (fun _ => .number score) 0 x := by
    cases score <;> exact ⟨_, fun _ _ => rfl⟩
  obtain ⟨sorted, notes⟩ := each _ carried
  have deep : Json.membersDepth (payload entry) + 1 ≤ source.levels - 1 := below _ carried
  have shallow : id.depth ≤ source.levels - 1 := below _ named
  refine ⟨⟨id, .ofFloat32 x, payload entry⟩, ?_, rfl⟩
  simp only [ScoredPoint.decode, read, bind, Option.bind_some]
  rw [(Restores.members notes).orElse deep [] (by decide)
      (Json.Members.lookup_of_mem distinct carried),
    (Restores.value (each _ named)).required shallow (by decide)
      (Json.Members.lookup_of_mem distinct named),
    number.required (Nat.zero_le _) (by decide) (Json.Members.lookup_of_mem distinct scored)]
  simp only [Option.bind_some, Json.Members.ofList_eq sorted]
  rfl

theorem mapM_decode_returned {points : List Json.Value}
    (returned : List.Forall₂ Returned entries points) (ordered : Json.ItemsOrdered points)
    (shallow : Json.itemsDepth points ≤ source.levels) :
    ∃ ps, (Json.trees points).mapM (ScoredPoint.decode source) = some ps ∧
      ps.map (·.payload) = entries.map payload := by
  induction returned with
  | nil => exact ⟨[], rfl, rfl⟩
  | cons first _ ih =>
    obtain ⟨below, rest⟩ := Nat.max_le.mp shallow
    obtain ⟨p, known, carried⟩ := decode_returned first ordered.1 below
    obtain ⟨ps, found, others⟩ := ih ordered.2 rest
    refine ⟨p :: ps, ?_, by rw [List.map_cons, List.map_cons, carried, others]⟩
    rw [Json.trees, List.mapM_cons, known, found]
    rfl

theorem resultOf_answers {body : Json.Value} (answers : Answers entries body)
    (ordered : body.Ordered) (shallow : body.depth ≤ Json.maxLevels) :
    ∃ ps, resultOf decodePoints body = .ok ps ∧ ps.map (·.payload) = entries.map payload := by
  obtain @⟨body, result, points, answered, listed, returned⟩ := answers
  obtain ⟨increasing, each⟩ := ordered
  obtain ⟨keys, inside⟩ := Json.membersOrdered_iff.mp each _ answered
  have sorted : Json.ItemsOrdered points := Json.membersOrdered_iff.mp inside _ listed
  have under : (Json.Value.object result).depth ≤ 126 :=
    Json.membersDepth_le_iff.mp (Nat.le_of_succ_le_succ shallow) _ answered
  have deep : (Json.Value.array points).depth ≤ 125 :=
    Json.membersDepth_le_iff.mp (Nat.le_of_succ_le_succ under) _ listed
  have found : Json.Members.get? "result" body = some (.object result) := by
    rw [Json.Members.get?_eq_lookup]
    exact Json.Members.lookup_of_mem (Json.Members.nodup_of_increasing increasing) answered
  have distinct := Json.Members.nodup_of_increasing keys
  have read : Json.Decode.fields ["points"] {} (Json.Value.object result).tree =
      some (Json.Decode.fieldsOf ⟨126, false⟩ ["points"] result) :=
    Json.Decode.fields_object ["points"] result distinct (by decide)
  have place : result.lookup "points" = some (.array points) :=
    Json.Members.lookup_of_mem distinct listed
  obtain ⟨ps, decoded, carried⟩ : ∃ ps, (Json.trees points).mapM (ScoredPoint.decode ⟨125, false⟩) =
      some ps ∧ ps.map (·.payload) = entries.map payload :=
    mapM_decode_returned returned sorted (Nat.le_of_succ_le deep)
  have whole : decodePoints {} (Json.Value.object result).tree = some ps := by
    simp only [decodePoints, read, bind, Option.bind_some, Json.Decode.Fields.orElse,
      Json.Decode.tree?_fieldsOf (List.mem_singleton_self _) place]
    exact decoded
  refine ⟨ps, ?_, carried⟩
  simp only [resultOf, found, whole]

section Search

variable {σ : Type}

/-- A search gives the texts of the entries whose payloads a server returns, and their notes but
for one under the key of the text. So it gives the entries as a knowledge base in memory would
exactly when none of them has a note under that key. -/
theorem payload_read_back (transport : Http.Transport σ) (config : Config) (vector : Embedding)
    (limits : Limits) (s t : σ) (response : Http.Response) (text : String) (body : Json.Value)
    (entries : List Entry)
    (responded : transport
      { method := .post, url := config.collectionUrl "/points/query"
        body := some (searchBody vector limits) } s = (.ok response, t))
    (success : response.isSuccess = true) (legible : response.text = .ok text)
    (read : Json.Value.ofString? text = some body) (answers : Answers entries body) :
    ∃ hits, ((store transport config).search vector limits).run s = (.ok hits, t) ∧
      hits.map (fun hit => (hit.text, hit.metadata)) =
        entries.map (fun entry => (entry.text, Json.Members.erase textKey entry.metadata)) ∧
      (hits.map (fun hit => (hit.text, hit.metadata)) = entries.map (fun entry =>
          let stored := Memory.hit vector (pointId entry.text) entry
          (stored.text, stored.metadata)) ↔
        ∀ entry ∈ entries, textKey ∉ entry.metadata.map (·.1)) := by
  obtain ⟨ordered, shallow⟩ := Json.ordered_of_ofString? read
  obtain ⟨ps, found, carried⟩ := resultOf_answers answers ordered shallow
  have answered : bodyOf response = .ok body := by
    simp only [bodyOf, legible, success, read, if_true]
  have hits : (ps.map ScoredPoint.hit).map (fun hit => (hit.text, hit.metadata)) =
      entries.map (fun entry => (entry.text, Json.Members.erase textKey entry.metadata)) := by
    calc (ps.map ScoredPoint.hit).map (fun hit => (hit.text, hit.metadata))
        = (ps.map (·.payload)).map reading := by
          rw [List.map_map, List.map_map]
          rfl
      _ = (entries.map payload).map reading := by rw [carried]
      _ = _ := by
          rw [List.map_map]
          exact List.map_congr_left fun entry _ => reading_payload entry
  refine ⟨ps.map ScoredPoint.hit, ?_, hits, ?_⟩
  · simp only [store, Action.run_bind, run_send, responded, answered, found]
    rfl
  · rw [hits, List.map_inj_left]
    refine forall₂_congr fun entry _ => ?_
    rw [← Json.Members.erase_eq_self_iff]
    simp only [Memory.hit, Prod.mk.injEq, true_and]

theorem payload_read_back_lang :
    let entry : Entry := ⟨"Paris is the capital of France.", [⟨0x3f800000⟩, ⟨0⟩],
      [("lang", .string "en")]⟩
    let body : Json.Value := .object [("result", .object [("points", .array
      [.object [("id", .string "p"), ("payload", .object (payload entry)), ("score", .ofNat 1)]])])]
    let response : Http.Response := ⟨200, .ok body.render.toUTF8.toList⟩
    let transport : Http.Transport Unit := fun _ => pure (.ok response)
    let config : Config := ⟨"http://localhost:6333", "facts", 2⟩
    response.isSuccess = true ∧ response.text = .ok body.render ∧
      Json.Value.ofString? body.render = some body ∧ Answers [entry] body ∧
      ∃ hits, ((store transport config).search entry.vector {}).run () = (.ok hits, ()) ∧
        hits.map (fun hit => (hit.text, hit.metadata)) = [(entry.text, entry.metadata)] := by
  intro entry body response transport config
  have legible : response.text = .ok body.render := by
    have spelled : Text.Utf8.lossy body.render.toUTF8.toList = body.render := by decide +kernel
    exact congrArg Except.ok spelled
  have read : Json.Value.ofString? body.render = some body := by
    refine Json.ofString?_render (fun n member => ?_) ?_ (by decide)
    · rw [List.mem_singleton.mp member]
      exact Json.survives_whole (by decide)
    · have keys : (["id", "payload", "score"] : List String).Pairwise (· < ·) := by decide
      have notes : (["lang", "text"] : List String).Pairwise (· < ·) := by decide
      exact ⟨List.pairwise_singleton _ _, ⟨List.pairwise_singleton _ _,
        ⟨⟨keys, trivial, ⟨notes, trivial, trivial, trivial⟩, trivial, trivial⟩, trivial⟩, trivial⟩,
        trivial⟩
  have answers : Answers [entry] body := by
    refine .points List.mem_cons_self List.mem_cons_self (.cons ?_ .nil)
    exact .point List.mem_cons_self (.tail _ (.tail _ (.head _))) (.tail _ (.head _))
  obtain ⟨hits, run, given, _⟩ := payload_read_back transport config entry.vector {} () () response
    body.render body [entry] rfl rfl legible read answers
  exact ⟨rfl, legible, read, answers, hits, run, given⟩

/-- A note under the key of the text is sent as the text, and is no note any more when it is
read. A knowledge base in memory keeps it. -/
theorem note_under_text_key_is_lost :
    let entry : Entry := ⟨"Paris is the capital of France.", [⟨0x3f800000⟩, ⟨0⟩],
      [("lang", .string "en"), ("text", .string "caption")]⟩
    let hit := ScoredPoint.hit ⟨.string (pointId entry.text).toString, .zero, payload entry⟩
    payload entry = [("lang", .string "en"), ("text", .string entry.text)] ∧
      hit.text = entry.text ∧ hit.metadata = [("lang", .string "en")] ∧
      hit.metadata ≠ entry.metadata ∧
      (Memory.hit entry.vector (pointId entry.text) entry).metadata = entry.metadata := by
  intro entry hit
  have lost : hit.metadata = [("lang", .string "en")] := rfl
  refine ⟨rfl, rfl, lost, fun same => ?_, rfl⟩
  rw [lost] at same
  exact absurd (congrArg List.length same) (by decide)

end Search

end Knowledge.Qdrant

end ClaimAudit
