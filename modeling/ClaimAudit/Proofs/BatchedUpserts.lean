import ClaimAudit.Knowledge.Qdrant
import ClaimAudit.Proofs.Catalog

/-! Upserts into a vector server.

The points of a batch are sent in requests of bounded size, one after the other, and the first that
fails is the last that is sent. So what has been sent is always a beginning of the points, and it
is all of them exactly when every request succeeded. Requests are noted by the transport that sends
them, for every transport there is.
-/

set_option autoImplicit false

namespace ClaimAudit

namespace Http

variable {σ : Type}

structure Attempt where
  request : Request
  outcome : Except String Response

def noting (transport : Transport σ) : Transport (σ × List Attempt) := fun request (s, sent) =>
  let (outcome, t) := transport request s
  (outcome, t, sent ++ [⟨request, outcome⟩])

end Http

namespace Knowledge

namespace Batch

variable {b : Batch}

theorem problem?_eq_none_iff : b.problem? = none ↔ b.texts.length = b.vectors.length ∧
    (b.metadata = [] ∨ b.metadata.length = b.texts.length) := by
  unfold problem?
  split
  · rename_i differ
    exact iff_of_false (by simp) fun shape => differ shape.1
  · rename_i same
    split
    · rename_i odd
      refine iff_of_false (by simp) fun shape => ?_
      rcases shape.2 with none | full
      · simp [none] at odd
      · exact odd.2 full
    · rename_i even
      refine iff_of_true rfl ⟨not_not.mp same, ?_⟩
      by_cases empty : b.metadata = []
      · exact .inl empty
      · exact .inr (not_not.mp fun differ => even ⟨by simpa using empty, differ⟩)

end Batch

namespace Qdrant

open Http (Attempt noting)

/-- The points of a batch: one a text and in their order, with the numbers of its vector, the notes
of the text under their keys and the text under its own. -/
structure PointsOf (batch : Batch) (points : List Json.Value) : Prop where
  length : points.length = batch.texts.length
  point : ∀ (i : Nat) text vector, batch.texts[i]? = some text → batch.vectors[i]? = some vector →
    ∃ notes : Metadata, points[i]? = some (Json.Value.object
        [("id", .string (pointId text).toString),
          ("vector", .array (vector.map fun x => .number (.real (Float32.ofBits x.bits).toFloat))),
          ("payload", .object notes)]) ∧
      ∀ key, Json.Members.get? key notes =
        if key = "text" then some (.string text)
        else Json.Members.get? key (batch.metadata[i]?.getD [])

/-- A beginning of the points, cut into loads that are full but for the last. -/
structure LoadsOf (points : List Json.Value) (loads : List (List Json.Value)) : Prop where
  beginning : loads.flatten <+: points
  bounded : ∀ load ∈ loads, 1 ≤ load.length ∧ load.length ≤ 100
  full : ∀ load ∈ loads.dropLast, load.length = 100

inductive Succeeds : Except String Http.Response → Prop where
  | read {response : Http.Response} {body : String} {value : Json.Value}
    (legible : response.text = .ok body) (success : response.isSuccess = true)
    (json : Json.Value.ofString? body = some value) : Succeeds (.ok response)

inductive Fails : Except String Http.Response → Error → Prop where
  | unreachable {reason : String} :
    Fails (.error reason) (.vectorStore s!"Qdrant request failed: {reason}")
  | cut {response : Http.Response} {reason : String} (illegible : response.text = .error reason) :
    Fails (.ok response) (.vectorStore s!"Failed to read Qdrant response: {reason}")
  | refused {response : Http.Response} {body : String} (legible : response.text = .ok body)
    (failure : response.isSuccess = false) :
    Fails (.ok response) (.vectorStore s!"Qdrant returned {response.statusText}: {body}")
  | unread {response : Http.Response} {body : String} (legible : response.text = .ok body)
    (success : response.isSuccess = true) (other : Json.Value.ofString? body = none) :
    Fails (.ok response) unreadable

def answered : Except String Http.Response → Except Error Json.Value
  | .ok response => bodyOf response
  | .error reason => .error (.vectorStore s!"Qdrant request failed: {reason}")

theorem answered_cases (outcome : Except String Http.Response) :
    (∃ value, answered outcome = .ok value ∧ Succeeds outcome) ∨
      ∃ error, answered outcome = .error error ∧ Fails outcome error := by
  rcases outcome with reason | response
  · exact .inr ⟨_, rfl, .unreachable⟩
  rcases text : response.text with reason | body
  · exact .inr ⟨_, by simp only [answered, bodyOf, text], .cut text⟩
  rcases status : response.isSuccess with _ | _
  · refine .inr ⟨_, ?_, .refused text status⟩
    simp only [answered, bodyOf, text, status, Bool.false_eq_true, if_false]
  rcases json : Json.Value.ofString? body with _ | value
  · refine .inr ⟨_, ?_, .unread text status json⟩
    simp only [answered, bodyOf, text, status, if_true, json]
  · refine .inl ⟨value, ?_, .read text status json⟩
    simp only [answered, bodyOf, text, status, if_true, json]

theorem Fails.not_succeeds {outcome : Except String Http.Response} {error : Error}
    (fails : Fails outcome error) : ¬ Succeeds outcome := by
  rintro ⟨legible, success, json⟩
  cases fails with
  | cut illegible => exact nomatch legible.symm.trans illegible
  | refused _ failure => exact nomatch success.symm.trans failure
  | unread legible' _ other =>
    obtain rfl := Except.ok.inj (legible.symm.trans legible')
    exact nomatch json.symm.trans other

/-- Requests one after the other, up to the first that fails. -/
inductive Sending : List Http.Request → List Attempt → Except Error Unit → Prop where
  | done : Sending [] [] (.ok ())
  | failed {request : Http.Request} {rest : List Http.Request}
    {outcome : Except String Http.Response} {error : Error} (fails : Fails outcome error) :
    Sending (request :: rest) [⟨request, outcome⟩] (.error error)
  | next {request : Http.Request} {rest : List Http.Request}
    {outcome : Except String Http.Response} {sent : List Attempt} {result : Except Error Unit}
    (succeeds : Succeeds outcome) (later : Sending rest sent result) :
    Sending (request :: rest) (⟨request, outcome⟩ :: sent) result

namespace Sending

variable {requests : List Http.Request} {sent : List Attempt} {result : Except Error Unit}

theorem requests_prefix (sending : Sending requests sent result) :
    sent.map (·.request) <+: requests := by
  induction sending with
  | done => exact List.nil_prefix
  | failed => exact List.cons_prefix_cons.mpr ⟨rfl, List.nil_prefix⟩
  | next _ _ ih => exact List.cons_prefix_cons.mpr ⟨rfl, ih⟩

theorem ended (sending : Sending requests sent result) :
    (result = .ok () ∧ sent.map (·.request) = requests ∧ ∀ a ∈ sent, Succeeds a.outcome) ∨
      ∃ before last error, sent = before ++ [last] ∧ (∀ a ∈ before, Succeeds a.outcome) ∧
        Fails last.outcome error ∧ result = .error error := by
  induction sending with
  | done => exact .inl ⟨rfl, rfl, List.forall_mem_nil _⟩
  | failed fails => exact .inr ⟨[], _, _, rfl, List.forall_mem_nil _, fails, rfl⟩
  | next succeeds later ih =>
    rcases ih with ⟨done, whole, all⟩ | ⟨before, last, error, split, earlier, fails, failed⟩
    · refine .inl ⟨done, congrArg _ whole, ?_⟩
      rw [List.forall_mem_cons]
      exact ⟨succeeds, all⟩
    · refine .inr ⟨_ :: before, last, error, congrArg _ split, ?_, fails, failed⟩
      rw [List.forall_mem_cons]
      exact ⟨succeeds, earlier⟩

theorem ok_iff (sending : Sending requests sent result) :
    result = .ok () ↔ sent.length = requests.length ∧ ∀ a ∈ sent, Succeeds a.outcome := by
  rcases sending.ended with ⟨done, whole, all⟩ | ⟨before, last, error, split, _, fails, failed⟩
  · refine iff_of_true done ⟨?_, all⟩
    rw [← whole, List.length_map]
  · refine iff_of_false (fun done => nomatch done.symm.trans failed) fun ⟨_, all⟩ => ?_
    have among : last ∈ sent := split ▸ List.mem_append_right _ (List.mem_singleton_self _)
    exact fails.not_succeeds (all last among)

end Sending

section Sent

variable {σ : Type} (transport : Http.Transport σ) (config : Config)

theorem run_send_noting (request : Http.Request) (s : σ) (sent : List Attempt) :
    ∃ outcome t, (send transport request).run s = (answered outcome, t) ∧
      (send (noting transport) request).run (s, sent) =
        (answered outcome, t, sent ++ [⟨request, outcome⟩]) := by
  refine ⟨(transport request s).1, (transport request s).2, ?_, ?_⟩
  · rw [run_send]
    rcases transport request s with ⟨reason | response, t⟩ <;> rfl
  · rw [run_send, noting]
    rcases transport request s with ⟨reason | response, t⟩ <;> rfl

theorem run_sendAll_noting (loads : List (List Entry)) (s : σ) (sent : List Attempt) :
    ∃ result t new, (sendAll transport config loads).run s = (result, t) ∧
      (sendAll (noting transport) config loads).run (s, sent) = (result, t, sent ++ new) ∧
      Sending (loads.map (upsertRequest config)) new result := by
  induction loads generalizing s sent with
  | nil => exact ⟨.ok (), s, [], rfl, by rw [List.append_nil]; rfl, .done⟩
  | cons load rest ih =>
    obtain ⟨outcome, t, plain, noted⟩ :=
      run_send_noting transport (upsertRequest config load) s sent
    let attempt : Attempt := ⟨upsertRequest config load, outcome⟩
    rcases answered_cases outcome with ⟨value, known, succeeds⟩ | ⟨error, known, fails⟩
    · obtain ⟨result, u, new, onward, onward', sending⟩ := ih t (sent ++ [attempt])
      refine ⟨result, u, attempt :: new, ?_, ?_, .next succeeds sending⟩
      · rw [run_sendAll_cons, plain, known]
        exact onward
      · rw [run_sendAll_cons, noted, known]
        exact onward'.trans (by rw [List.append_assoc, List.singleton_append])
    · refine ⟨.error error, t, [attempt], ?_, ?_, .failed fails⟩
      · rw [run_sendAll_cons, plain, known]
      · rw [run_sendAll_cons, noted, known]

end Sent

section Upsert

variable {batch : Batch} {entries : List Entry}

theorem pointsOf_joined (sound : batch.problem? = none) :
    PointsOf batch (batch.joined.map pointJson) where
  length := by rw [List.length_map, Batch.length_joined sound]
  point i text vector first second := by
    refine ⟨payload ⟨text, vector, batch.metadata[i]?.getD []⟩, ?_, fun key => ?_⟩
    · rw [List.getElem?_map, Batch.getElem?_joined sound first second]
      rfl
    · rw [payload]
      split
      · rename_i same
        exact same ▸ Json.Members.get?_set _ _ _
      · rename_i differ
        exact Json.Members.get?_set_of_ne differ

theorem loadsOf_take (entries : List Entry) (count : Nat) :
    LoadsOf (entries.map pointJson)
      (((batches batchSize entries).take count).map (·.map pointJson)) where
  beginning := by
    have split := congrArg List.flatten (List.take_append_drop count (batches batchSize entries))
    rw [List.flatten_append, flatten_batches (by decide)] at split
    rw [← List.map_flatten]
    exact (split ▸ List.prefix_append _ _).map pointJson
  bounded load member := by
    obtain ⟨entries', among, rfl⟩ := List.mem_map.mp member
    have origin := List.mem_of_mem_take among
    rw [List.length_map]
    exact ⟨List.length_pos_iff.mpr (ne_nil_of_mem_batches origin), length_le_of_mem_batches origin⟩
  full load member := by
    rw [← List.map_dropLast] at member
    obtain ⟨entries', among, rfl⟩ := List.mem_map.mp member
    have followed := (pairwise_batches batchSize entries).sublist (List.take_sublist count _)
    rw [← List.dropLast_append_getLast (List.ne_nil_of_mem (List.mem_of_mem_dropLast among)),
      List.pairwise_append] at followed
    rw [List.length_map]
    exact followed.2.2 entries' among _ (List.mem_singleton_self _)

variable {σ : Type} (transport : Http.Transport σ) (config : Config) (s : σ)

theorem run_upsert_of_problem {problem : Batch.Problem} (unsound : batch.problem? = some problem) :
    ((store transport config).upsert batch).run s = (.error problem.error, s) := by
  simp only [store, Action.run_bind, Action.run_liftExcept, Batch.entries, unsound]

theorem run_upsert_of_sound (sound : batch.problem? = none) :
    ((store transport config).upsert batch).run s =
      (((sendAll transport config (batches batchSize batch.joined)).run s).1.map
          fun _ => batch.texts.length,
        ((sendAll transport config (batches batchSize batch.joined)).run s).2) := by
  simp only [store, Action.run_bind, Action.run_liftExcept, Batch.entries, sound]
  rcases (sendAll transport config (batches batchSize batch.joined)).run s with ⟨error | _, t⟩
  · rfl
  · exact congrArg (fun count => (Except.ok count, t)) (Batch.length_joined sound)

theorem run_upsert_noting (sound : batch.problem? = none) : ∃ result t sent,
    ((store transport config).upsert batch).run s =
      (result.map fun _ => batch.texts.length, t) ∧
    ((store (noting transport) config).upsert batch).run (s, []) =
      (result.map fun _ => batch.texts.length, t, sent) ∧
    Sending ((batches batchSize batch.joined).map (upsertRequest config)) sent result := by
  obtain ⟨result, t, sent, plain, noted, sending⟩ :=
    run_sendAll_noting transport config (batches batchSize batch.joined) s []
  refine ⟨result, t, sent, ?_, ?_, sending⟩
  · rw [run_upsert_of_sound transport config s sound, plain]
  · rw [run_upsert_of_sound (noting transport) config (s, []) sound, noted, List.nil_append]

/-- The requests that were sent are those of the first batches. -/
theorem requests_eq {loads : List (List Entry)} {sent : List Attempt} {result : Except Error Unit}
    (sending : Sending (loads.map (upsertRequest config)) sent result) :
    sent.map (·.request) = ((loads.take sent.length).map (·.map pointJson)).map fun load =>
      { method := .put, url := config.collectionUrl "/points?wait=true"
        body := some (.object [("points", .array load)]) } := by
  have first := List.prefix_iff_eq_take.mp sending.requests_prefix
  rw [List.length_map, ← List.map_take] at first
  rw [first, List.map_map]
  rfl

/-- An upsert sends its points in order, in requests of a hundred, and stops at the first request
that fails. It succeeds exactly when all of its requests were sent and succeeded, and a batch of
the wrong shape is not sent at all. -/
theorem upsert_sends_beginning (batch : Batch) : ∃ outcome t sent,
    ((store transport config).upsert batch).run s = (outcome, t) ∧
    ((store (noting transport) config).upsert batch).run (s, []) = (outcome, t, sent) ∧
    (∀ problem, batch.problem? = some problem →
      outcome = .error problem.error ∧ sent = [] ∧ t = s) ∧
    (batch.problem? = none ↔ batch.texts.length = batch.vectors.length ∧
      (batch.metadata = [] ∨ batch.metadata.length = batch.texts.length)) ∧
    (batch.problem? = none →
      (∃ points loads, PointsOf batch points ∧ LoadsOf points loads ∧
        sent.map (·.request) = loads.map (fun load =>
          { method := .put, url := config.collectionUrl "/points?wait=true"
            body := some (.object [("points", .array load)]) }) ∧
        (∀ count, outcome = .ok count → loads.flatten = points)) ∧
      (outcome = .ok batch.texts.length ∨
        ∃ before last error, sent = before ++ [last] ∧ (∀ a ∈ before, Succeeds a.outcome) ∧
          Fails last.outcome error ∧ outcome = .error error) ∧
      (outcome = .ok batch.texts.length ↔
        sent.length = (batch.texts.length + 99) / 100 ∧ ∀ a ∈ sent, Succeeds a.outcome)) := by
  rcases shape : batch.problem? with _ | problem
  · obtain ⟨result, t, sent, plain, noted, sending⟩ := run_upsert_noting transport config s shape
    have number : (batches batchSize batch.joined).length = (batch.texts.length + 99) / 100 := by
      rw [length_batches (by decide), Batch.length_joined shape]
      rfl
    have done : result.map (fun _ => batch.texts.length) = .ok batch.texts.length ↔
        result = .ok () := by
      cases result <;> simp [Except.map]
    refine ⟨_, t, sent, plain, noted, fun _ same => (nomatch same),
      iff_of_true rfl (Batch.problem?_eq_none_iff.mp shape), fun _ => ⟨?_, ?_, ?_⟩⟩
    · refine ⟨_, _, pointsOf_joined shape, loadsOf_take _ sent.length, requests_eq config sending,
        fun count ok => ?_⟩
      have succeeded : result = .ok () := by
        cases result with
        | error => cases ok
        | ok => rfl
      have every := (sending.ok_iff.mp succeeded).1
      rw [List.length_map] at every
      rw [every, List.take_length, ← List.map_flatten, flatten_batches (by decide)]
    · rcases sending.ended with ⟨ok, _⟩ | ⟨before, last, error, split, earlier, fails, failed⟩
      · exact .inl (done.mpr ok)
      · exact .inr ⟨before, last, error, split, earlier, fails, by rw [failed]; rfl⟩
    · rw [done, sending.ok_iff, List.length_map, number]
  · refine ⟨.error problem.error, s, [], run_upsert_of_problem transport config s shape,
      run_upsert_of_problem (noting transport) config (s, []) shape, fun other same => ?_, ?_,
      fun same => nomatch same⟩
    · cases same
      exact ⟨rfl, rfl, rfl⟩
    · rw [← Batch.problem?_eq_none_iff, shape]

end Upsert

end Qdrant

end Knowledge

end ClaimAudit
