import ClaimAudit.Http.Exchange
import ClaimAudit.Http.Url
import ClaimAudit.Json.Decode
import ClaimAudit.Json.Writer
import ClaimAudit.Knowledge.Store

/-! A knowledge base in a collection of a vector server.

A point carries the text of its entry among the notes, under a key of its own.
Points are sent in batches, and the first batch that fails ends an upsert.
-/

set_option autoImplicit false

namespace ClaimAudit.Knowledge.Qdrant

open ClaimAudit.Number (Single)

structure Config where
  url : String
  collection : String
  dimension : Nat
  deriving DecidableEq, Repr

namespace Config

def baseUrl (c : Config) : String := Http.withoutSlashes c.url

def collectionUrl (c : Config) (suffix : String) : String :=
  c.baseUrl ++ "/collections/" ++ c.collection ++ suffix

end Config

def batchSize : Nat := 100

/-- The key of the text among the notes of a point. -/
def textKey : String := "text"

def vectorJson (vector : Embedding) : Json.Value :=
  .array (vector.map fun x => .ofFloat x.toFloat)

def payload (entry : Entry) : Metadata :=
  Json.Members.set textKey (.string entry.text) entry.metadata

def pointJson (entry : Entry) : Json.Value := .object
  [("id", .string (pointId entry.text).toString),
   ("vector", vectorJson entry.vector),
   ("payload", .object (payload entry))]

def upsertBody (entries : List Entry) : Json.Value :=
  .object [("points", .array (entries.map pointJson))]

def searchBody (vector : Embedding) (limits : Limits) : Json.Value := .object
  [("query", vectorJson vector),
   ("limit", .ofNat limits.topK),
   ("score_threshold", .ofFloat limits.threshold.toFloat),
   ("with_payload", .bool true)]

def createBody (dimension : Nat) : Json.Value := .object
  [("vectors", .object [("size", .ofNat dimension), ("distance", .string "Cosine")])]

structure ScoredPoint where
  id : Json.Value
  score : Single
  payload : Metadata

def ScoredPoint.decode : Json.Decoder ScoredPoint := fun source tree => do
  let f ← Json.Decode.fields ["id", "score", "payload"] source tree
  let payload ← f.orElse "payload" [] (Json.Decode.members Json.Decode.value)
  return { id := ← f.required "id" Json.Decode.value
           score := .ofFloat32 (← f.required "score" Json.Decode.float32)
           payload := Json.Members.ofList payload }

/-- The entry that a point carries. Without a text among the notes it is empty. -/
def ScoredPoint.hit (p : ScoredPoint) : Hit where
  id := match p.id with
    | .string id => id
    | other => other.render
  text := ((Json.Members.get? textKey p.payload).bind Json.Value.string?).getD ""
  score := p.score
  metadata := Json.Members.erase textKey p.payload

def decodePoints : Json.Decoder (List ScoredPoint) := fun source tree => do
  let f ← Json.Decode.fields ["points"] source tree
  f.orElse "points" [] (Json.Decode.list ScoredPoint.decode)

def decodeCount : Json.Decoder Nat := fun source tree => do
  let f ← Json.Decode.fields ["points_count"] source tree
  let count ← f.orElse "points_count" none (Json.Decode.optional Json.Decode.word64)
  return count.getD 0

def unreadable : Error := .serialization "the response of the server cannot be read"

def resultOf {α : Type} (decode : Json.Decoder α) (body : Json.Value) : Except Error α :=
  let result? : Option Json.Value := match body with
    | .object members => Json.Members.get? "result" members
    | _ => none
  match result? with
  | none => .error (.vectorStore "Qdrant response has no result")
  | some result =>
    match decode {} result.tree with
    | some a => .ok a
    | none => .error unreadable

variable {σ : Type}

def exchange (transport : Http.Transport σ) (request : Http.Request) : Action σ Http.Response := do
  match ← (transport request : StateM σ _) with
  | .ok response => return response
  | .error reason => throw (.vectorStore s!"Qdrant request failed: {reason}")

def bodyOf (response : Http.Response) : Except Error Json.Value :=
  match response.text with
  | .error reason => .error (.vectorStore s!"Failed to read Qdrant response: {reason}")
  | .ok body =>
    if response.isSuccess then
      match Json.Value.ofString? body with
      | some value => .ok value
      | none => .error unreadable
    else .error (.vectorStore s!"Qdrant returned {response.statusText}: {body}")

def send (transport : Http.Transport σ) (request : Http.Request) : Action σ Json.Value := do
  liftExcept (bodyOf (← exchange transport request))

theorem run_send (transport : Http.Transport σ) (request : Http.Request) (s : σ) :
    (send transport request).run s =
      match transport request s with
      | (.ok response, t) => (bodyOf response, t)
      | (.error reason, t) => (.error (.vectorStore s!"Qdrant request failed: {reason}"), t) := by
  rw [send, Action.run_bind, exchange, Action.run_bind, Action.run_liftM]
  rcases transport request s with ⟨reason | response, t⟩
  · rfl
  · exact Action.run_liftExcept t (bodyOf response)

def ensure (transport : Http.Transport σ) (config : Config) : Action σ Unit := do
  let response ← exchange transport { method := .get, url := config.collectionUrl "" }
  if response.isSuccess then return
  if response.status ≠ 404 then
    throw (.vectorStore
      s!"Unexpected status {response.statusText} checking collection {config.collection}")
  discard (send transport
    { method := .put, url := config.collectionUrl "", body := some (createBody config.dimension) })

def upsertRequest (config : Config) (entries : List Entry) : Http.Request :=
  { method := .put, url := config.collectionUrl "/points?wait=true"
    body := some (upsertBody entries) }

/-- Send batches one after the other, up to the first that fails. -/
def sendAll (transport : Http.Transport σ) (config : Config) : List (List Entry) → Action σ Unit
  | [] => return
  | entries :: rest => do
    discard (send transport (upsertRequest config entries))
    sendAll transport config rest

theorem run_sendAll_cons (transport : Http.Transport σ) (config : Config) (load : List Entry)
    (rest : List (List Entry)) (s : σ) :
    (sendAll transport config (load :: rest)).run s =
      match (send transport (upsertRequest config load)).run s with
      | (.ok _, t) => (sendAll transport config rest).run t
      | (.error error, t) => (.error error, t) := by
  have dropped : (discard (send transport (upsertRequest config load)) : Action σ Unit) =
      send transport (upsertRequest config load) >>= fun _ => pure () := by
    change Functor.mapConst () _ = _
    rw [map_const]
    exact map_eq_pure_bind _ _
  simp only [sendAll, dropped, bind_assoc, pure_bind]
  rw [Action.run_bind]
  rcases (send transport (upsertRequest config load)).run s with ⟨error | value, t⟩ <;> rfl

def store (transport : Http.Transport σ) (config : Config) : Store σ where
  ensure := ensure transport config
  upsert batch := do
    let entries ← liftExcept batch.entries
    sendAll transport config (batches batchSize entries)
    return entries.length
  search vector limits := do
    let body ← send transport
      { method := .post, url := config.collectionUrl "/points/query"
        body := some (searchBody vector limits) }
    return (← liftExcept (resultOf decodePoints body)).map ScoredPoint.hit
  count := do
    let body ← send transport { method := .get, url := config.collectionUrl "" }
    liftExcept (resultOf decodeCount body)
  healthy := do
    match ← transport { method := .get, url := config.baseUrl ++ "/collections" } with
    | .ok response => return response.isSuccess
    | .error _ => return false

end ClaimAudit.Knowledge.Qdrant
