import ClaimAudit.Embedder
import ClaimAudit.Proofs.Responses
import Mathlib.Data.List.Range
import Mathlib.Data.List.Sort

/-! Embeddings stay with their texts.

A hosted service lists vectors in any order, each with the position of its text. Sorting by
position puts them back in order, so that two lists of the same entries give the same vectors; and
what comes back in another number, or of another length, is refused, whatever the backend.
-/

set_option autoImplicit false

namespace ClaimAudit

namespace Json.Decode

variable {α β : Type}

theorem mapM_map (f : Tree → Option α) (g : α → β) (items : List Tree) :
    items.mapM (fun tree => (f tree).map g) = (items.mapM f).map (List.map g) := by
  induction items with
  | nil => rfl
  | cons tree rest ih =>
    rw [List.mapM_cons, List.mapM_cons, ih]
    cases f tree <;> cases rest.mapM f <;> rfl

theorem list_map (decode : Decoder α) (g : α → β) (source : Source) (tree : Tree) :
    list (fun source tree => (decode source tree).map g) source tree =
      (list decode source tree).map (List.map g) := by
  cases tree with
  | array items =>
    rw [list, list]
    cases source.inner? with
    | none => rfl
    | some inner => exact mapM_map (decode inner) g items
  | _ => rfl

end Json.Decode

namespace Backend.OpenAI

section Order

variable {labelled others : List (Nat × Embedding)}

def sorted (labelled : List (Nat × Embedding)) : List (Nat × Embedding) :=
  labelled.mergeSort fun a b => a.1 ≤ b.1

theorem inOrder_eq (labelled : List (Nat × Embedding)) :
    inOrder labelled = (sorted labelled).map (·.2) := rfl

theorem sorted_perm (labelled : List (Nat × Embedding)) : (sorted labelled).Perm labelled :=
  List.mergeSort_perm _ _

theorem inOrder_perm (labelled : List (Nat × Embedding)) :
    (inOrder labelled).Perm (labelled.map (·.2)) :=
  (sorted_perm labelled).map _

theorem pairwise_sorted (labelled : List (Nat × Embedding)) :
    (sorted labelled).Pairwise fun a b => a.1 ≤ b.1 := by
  have transitive (a b c : Nat × Embedding) (first : decide (a.1 ≤ b.1) = true)
      (second : decide (b.1 ≤ c.1) = true) : decide (a.1 ≤ c.1) = true :=
    decide_eq_true (Nat.le_trans (of_decide_eq_true first) (of_decide_eq_true second))
  have total (a b : Nat × Embedding) : (decide (a.1 ≤ b.1) || decide (b.1 ≤ a.1)) = true := by
    rcases Nat.le_total a.1 b.1 with below | above
    · simp [below]
    · simp [above]
  exact (List.pairwise_mergeSort transitive total labelled).imp of_decide_eq_true

/-- Vectors at different positions come in one order, however they were listed. -/
theorem inOrder_eq_of_perm (same : labelled.Perm others)
    (distinct : (labelled.map (·.1)).Nodup) : inOrder labelled = inOrder others := by
  have permuted := (sorted_perm labelled).trans (same.trans (sorted_perm others).symm)
  rw [inOrder_eq, inOrder_eq]
  refine congrArg _ (List.Perm.eq_of_pairwise (fun a b member member' below above => ?_)
    (pairwise_sorted labelled) (pairwise_sorted others) permuted)
  have first := (sorted_perm labelled).mem_iff.mp member
  have second := same.mem_iff.mpr ((sorted_perm others).mem_iff.mp member')
  exact List.inj_on_of_nodup_map distinct first second (Nat.le_antisymm below above)

/-- With one vector a position, each stands at its own. -/
theorem getElem?_inOrder {n : Nat} (positions : (labelled.map (·.1)).Perm (List.range n)) (i : Nat)
    (v : Embedding) : (inOrder labelled)[i]? = some v ↔ (i, v) ∈ labelled := by
  have keys : (sorted labelled).map (·.1) = List.range n :=
    List.Perm.eq_of_pairwise (fun _ _ _ _ => Nat.le_antisymm)
      (List.pairwise_map.mpr (pairwise_sorted labelled)) List.pairwise_le_range
      (((sorted_perm labelled).map _).trans positions)
  have own {j : Nat} {entry : Nat × Embedding} (place : (sorted labelled)[j]? = some entry) :
      entry.1 = j := by
    have key : ((sorted labelled).map (·.1))[j]? = some entry.1 := by
      rw [List.getElem?_map, place]
      rfl
    rw [keys] at key
    obtain ⟨_, same⟩ := List.getElem?_eq_some_iff.mp key
    rw [← same, List.getElem_range]
  rw [inOrder_eq, List.getElem?_map, Option.map_eq_some_iff, ← (sorted_perm labelled).mem_iff]
  constructor
  · rintro ⟨⟨j, w⟩, place, rfl⟩
    obtain rfl := own place
    exact List.mem_of_getElem? place
  · intro member
    obtain ⟨j, place⟩ := List.mem_iff_getElem?.mp member
    obtain rfl := own place
    exact ⟨_, place, rfl⟩

theorem inOrder_unlabelled (vectors : List Embedding) :
    inOrder (vectors.map fun v => (0, v)) = vectors := by
  have still : sorted (vectors.map fun v => (0, v)) = vectors.map fun v => (0, v) :=
    List.mergeSort_of_pairwise (List.pairwise_map.mpr (List.pairwise_of_forall fun _ _ => rfl))
  rw [inOrder_eq, still, List.map_map]
  exact List.map_id _

end Order

/-- What a response lists: vectors, and the positions that it gives for them. -/
structure Listing where
  model : String
  entries : List (Option Nat × Embedding)
  usage : Option TokenUsage
  deriving DecidableEq

def Listing.decodeEntry : Json.Decoder (Option Nat × Embedding) := fun source tree => do
  let f ← Json.Decode.fields ["index", "embedding"] source tree
  let index ← f.orElse "index" none fun source tree => (Json.Decode.word64 source tree).map some
  return (index, ← f.required "embedding" Wire.decodeVector)

def Listing.decode : Json.Decoder Listing := fun source tree => do
  let f ← Json.Decode.fields ["model", "data", "usage"] source tree
  let usage ← f.orElse "usage" none (Json.Decode.optional decodeUsage)
  return { model := ← f.required "model" Json.Decode.string
           entries := ← f.required "data" (Json.Decode.list Listing.decodeEntry)
           usage }

namespace Listing

def labelled (entry : Option Nat × Embedding) : Nat × Embedding := (entry.1.getD 0, entry.2)

def reply (l : Listing) : EmbeddingReply where
  model := l.model
  embeddings := inOrder (l.entries.map labelled)
  usage := { input := (l.usage.map (·.input)).getD 0 }

theorem decodeLabelled_eq (source : Json.Source) (tree : Json.Tree) :
    decodeLabelled source tree = (decodeEntry source tree).map labelled := by
  have index (f : Json.Decode.Fields) : f.orElse "index" 0 Json.Decode.word64 =
      (f.orElse "index" none fun source tree => (Json.Decode.word64 source tree).map some).map
        (·.getD 0) := by
    rw [Json.Decode.Fields.orElse, Json.Decode.Fields.orElse]
    cases f.tree? "index" with
    | none => rfl
    | some tree =>
      dsimp only
      cases Json.Decode.word64 f.source tree <;> rfl
  rw [decodeLabelled, decodeEntry]
  cases Json.Decode.fields ["index", "embedding"] source tree with
  | none => rfl
  | some f =>
    simp only [bind, Option.bind_some, index]
    cases f.orElse "index" none fun source tree => (Json.Decode.word64 source tree).map some <;>
      cases f.required "embedding" Wire.decodeVector <;> rfl

theorem decodeEmbeddings_eq (source : Json.Source) (tree : Json.Tree) :
    decodeEmbeddings source tree = (decode source tree).map reply := by
  have data : Json.Decode.list decodeLabelled =
      fun source tree => (Json.Decode.list decodeEntry source tree).map (List.map labelled) := by
    funext source tree
    rw [← Json.Decode.list_map]
    exact congrArg (Json.Decode.list · source tree) (funext fun _ => funext fun _ =>
      decodeLabelled_eq _ _)
  have entries (f : Json.Decode.Fields) : f.required "data" (Json.Decode.list decodeLabelled) =
      (f.required "data" (Json.Decode.list decodeEntry)).map (List.map labelled) := by
    rw [Json.Decode.Fields.required, Json.Decode.Fields.required, data]
    cases f.tree? "data" <;> rfl
  rw [decodeEmbeddings, decode]
  cases Json.Decode.fields ["model", "data", "usage"] source tree with
  | none => rfl
  | some f =>
    simp only [bind, Option.bind_some, entries]
    cases f.orElse "usage" none (Json.Decode.optional decodeUsage) <;>
      cases f.required "model" Json.Decode.string <;>
      cases f.required "data" (Json.Decode.list decodeEntry) <;> rfl

end Listing

theorem run_post {σ α : Type} {transport : Http.Transport σ} {access : Access}
    {decode : Json.Decoder α} {path : String} {body : Json.Value} {s t : σ}
    {response : Http.Response} {text : String} {reply : α}
    (responded : transport
      { method := .post, url := address access ++ path, bearer := access.apiKey
        body := some body } s = (.ok response, t))
    (success : response.isSuccess = true) (legible : response.text = .ok text)
    (read : Json.Decode.text decode text = some reply) :
    (post transport access decode path body).run s = (.ok reply, t) := by
  rw [run_post_eq, responded]
  exact Prod.ext (Wire.outcome_eq_ok_iff.mpr ⟨success, text, legible, read⟩) rfl

end Backend.OpenAI

namespace Embedder

variable {σ : Type} {client : Client σ} {model : String} {dimension : Nat} {texts : List String}
  {vectors : List Embedding} {s t : σ}

theorem problem?_eq_none_iff : problem? model dimension texts vectors = none ↔
    vectors.length = texts.length ∧ ∀ v ∈ vectors, v.length = dimension := by
  rw [problem?]
  split
  · rename_i differ
    exact iff_of_false (by simp) fun shape => differ shape.1
  · rename_i same
    simp only [Option.map_eq_none_iff, List.find?_eq_none, decide_eq_true_eq, not_not]
    exact (and_iff_right (not_not.mp same)).symm

def checked (model : String) (dimension : Nat) (texts : List String) (vectors : List Embedding) :
    Except Error (List Embedding) :=
  match problem? model dimension texts vectors with
  | some problem => .error problem.error
  | none => .ok vectors

theorem checked_of_shape (count : vectors.length = texts.length)
    (lengths : ∀ v ∈ vectors, v.length = dimension) :
    checked model dimension texts vectors = .ok vectors := by
  rw [checked, problem?_eq_none_iff.mpr ⟨count, lengths⟩]

theorem run_ofClient (filled : texts ≠ []) (s : σ) :
    ((ofClient client model dimension).embed texts).run s =
      match (client.embed { model := some model, texts }).run s with
      | (.ok reply, t) => (checked model dimension texts reply.embeddings, t)
      | (.error error, t) => (.error error, t) := by
  have inhabited : texts.isEmpty = false := by simpa using filled
  simp only [ofClient, inhabited, Bool.false_eq_true, if_false, Action.run_bind]
  rcases (client.embed { model := some model, texts }).run s with ⟨error | reply, t⟩
  · rfl
  · simp only [checked]
    cases problem? model dimension texts reply.embeddings <;> rfl

/-- Whatever the backend, what comes back has one vector a text, each of the right length. -/
theorem shape_of_ok
    (ran : ((ofClient client model dimension).embed texts).run s = (.ok vectors, t)) :
    vectors.length = texts.length ∧ ∀ v ∈ vectors, v.length = dimension := by
  rcases eq_or_ne texts [] with rfl | filled
  · cases ran
    exact ⟨rfl, List.forall_mem_nil _⟩
  rw [run_ofClient filled] at ran
  rcases replied : (client.embed { model := some model, texts }).run s with ⟨error | reply, u⟩ <;>
    rw [replied] at ran
  · cases ran
  · have outcome : checked model dimension texts reply.embeddings = .ok vectors :=
      congrArg Prod.fst ran
    rw [checked] at outcome
    cases checks : problem? model dimension texts reply.embeddings with
    | some problem =>
      rw [checks] at outcome
      cases outcome
    | none =>
      rw [checks] at outcome
      exact Except.ok.inj outcome ▸ problem?_eq_none_iff.mp checks

end Embedder

namespace Backend.OpenAI

variable {σ : Type}

def embeddingRequest (access : Access) (model : String) (texts : List String) : Http.Request :=
  { method := .post, url := address access ++ "/v1/embeddings", bearer := access.apiKey
    body := some (Wire.embeddingBody model texts) }

structure Lists (response : Http.Response) (listing : Listing) : Prop where
  success : response.isSuccess = true
  read : ∃ text, response.text = .ok text ∧ Json.Decode.text Listing.decode text = some listing

section Aligned

variable {transport : Http.Transport σ} {access : Access} {model : String} {dimension : Nat}
  {texts : List String} {s t : σ} {response : Http.Response} {listing : Listing}

theorem run_embed (filled : texts ≠ [])
    (responded : transport (embeddingRequest access model texts) s = (.ok response, t))
    (lists : Lists response listing) :
    ((Embedder.ofClient (client transport access) model dimension).embed texts).run s =
      (Embedder.checked model dimension texts
        (inOrder (listing.entries.map Listing.labelled)), t) := by
  obtain ⟨success, text, legible, read⟩ := lists
  have decoded : Json.Decode.text decodeEmbeddings text = some listing.reply := by
    obtain ⟨tree, scanned, found⟩ := Option.bind_eq_some_iff.mp read
    refine Option.bind_eq_some_iff.mpr ⟨tree, scanned, ?_⟩
    rw [Listing.decodeEmbeddings_eq, found]
    rfl
  have posted : ((client transport access).embed { model := some model, texts }).run s =
      (.ok listing.reply, t) := run_post responded success legible decoded
  rw [Embedder.run_ofClient filled, posted]
  rfl

end Aligned

namespace Listing

variable {listing other : Listing} {n : Nat}

def ordered (listing : Listing) : List Embedding := inOrder (listing.entries.map labelled)

theorem ordered_perm (listing : Listing) : listing.ordered.Perm (listing.entries.map (·.2)) := by
  have vectors := inOrder_perm (listing.entries.map labelled)
  rwa [List.map_map] at vectors

theorem length_of_mem_ordered {dimension : Nat}
    (lengths : ∀ entry ∈ listing.entries, entry.2.length = dimension) :
    ∀ v ∈ listing.ordered, v.length = dimension := by
  intro v member
  obtain ⟨entry, own, rfl⟩ := List.mem_map.mp (listing.ordered_perm.mem_iff.mp member)
  exact lengths entry own

/-- Each position below `n` is given once. -/
def Numbered (listing : Listing) (n : Nat) : Prop :=
  (listing.entries.map (·.1)).Perm ((List.range n).map some)

theorem Numbered.length_ordered (numbered : listing.Numbered n) : listing.ordered.length = n := by
  have number := numbered.length_eq
  rw [List.length_map, List.length_map, List.length_range] at number
  rw [listing.ordered_perm.length_eq, List.length_map, number]

theorem Numbered.positions (numbered : listing.Numbered n) :
    ((listing.entries.map labelled).map (·.1)).Perm (List.range n) := by
  have places := numbered.map (·.getD 0)
  rw [List.map_map, List.map_map] at places
  rw [List.map_map]
  exact places.trans (.of_eq (List.map_id _))

theorem Numbered.mem_labelled (numbered : listing.Numbered n) (i : Nat) (v : Embedding) :
    (i, v) ∈ listing.entries.map labelled ↔ (some i, v) ∈ listing.entries := by
  rw [List.mem_map]
  refine ⟨fun ⟨entry, member, same⟩ => ?_, fun member => ⟨_, member, rfl⟩⟩
  obtain ⟨index, w⟩ := entry
  obtain ⟨j, _, rfl⟩ := List.mem_map.mp (numbered.mem_iff.mp (List.mem_map_of_mem member))
  cases same
  exact member

theorem Numbered.getElem?_ordered (numbered : listing.Numbered n) (i : Nat) (v : Embedding) :
    listing.ordered[i]? = some v ↔ (some i, v) ∈ listing.entries :=
  (getElem?_inOrder numbered.positions i v).trans (numbered.mem_labelled i v)

theorem Numbered.ordered_eq_of_perm (numbered : listing.Numbered n)
    (same : other.entries.Perm listing.entries) : other.ordered = listing.ordered := by
  have places := ((same.map labelled).map (·.1)).trans numbered.positions
  exact inOrder_eq_of_perm (same.map _) (places.nodup_iff.mpr List.nodup_range)

theorem ordered_of_unlabelled (unlabelled : ∀ entry ∈ listing.entries, entry.1 = none) :
    listing.ordered = listing.entries.map (·.2) := by
  have first : listing.entries.map labelled =
      (listing.entries.map (·.2)).map fun v => (0, v) := by
    rw [List.map_map]
    refine List.map_congr_left fun entry member => ?_
    rw [labelled, unlabelled entry member]
    rfl
  rw [ordered, first, inOrder_unlabelled]

end Listing

/-- The vectors of a response are put at the positions that it gives for them, so that the order
in which it lists them does not matter; without positions they stay in the order of the list. And
whatever a backend returns, there is one vector a text, each of the right length, or an error. -/
theorem embeddings_aligned (transport : Http.Transport σ) (access : Access) (model : String)
    (dimension : Nat) (texts : List String) (filled : texts ≠ []) (s t : σ)
    (response : Http.Response) (listing : Listing)
    (responded : transport (embeddingRequest access model texts) s = (.ok response, t))
    (lists : Lists response listing) :
    let outcome := ((Embedder.ofClient (client transport access) model dimension).embed texts).run s
    ((listing.entries.map (·.1)).Perm ((List.range texts.length).map some) →
      ((∀ entry ∈ listing.entries, entry.2.length = dimension) →
        ∃ vectors, outcome = (.ok vectors, t) ∧ vectors.length = texts.length ∧
          ∀ (i : Nat) v, vectors[i]? = some v ↔ (some i, v) ∈ listing.entries) ∧
      ∀ (transport' : Http.Transport σ) s' t' response' listing',
        transport' (embeddingRequest access model texts) s' = (.ok response', t') →
        Lists response' listing' → listing'.entries.Perm listing.entries →
        (((Embedder.ofClient (client transport' access) model dimension).embed texts).run s').1 =
          outcome.1) ∧
    ((∀ entry ∈ listing.entries, entry.1 = none) → listing.entries.length = texts.length →
      (∀ entry ∈ listing.entries, entry.2.length = dimension) →
      outcome = (.ok (listing.entries.map (·.2)), t)) ∧
    (∀ (τ : Type) (client : Client τ) model dimension texts s vectors t,
      ((Embedder.ofClient client model dimension).embed texts).run s = (.ok vectors, t) →
      vectors.length = texts.length ∧ ∀ v ∈ vectors, v.length = dimension) ∧
    ∀ (τ : Type) (client : Client τ) model dimension,
      (Embedder.ofClient client model dimension).embed [] = pure [] := by
  intro outcome
  have run : outcome = (Embedder.checked model dimension texts listing.ordered, t) :=
    run_embed filled responded lists
  refine ⟨fun numbered => ⟨fun lengths => ?_, ?_⟩, fun unlabelled count lengths => ?_,
    fun _ _ _ _ _ _ _ _ => Embedder.shape_of_ok, fun _ _ _ _ => rfl⟩
  · have numbered : listing.Numbered texts.length := numbered
    refine ⟨listing.ordered, run.trans ?_, numbered.length_ordered, numbered.getElem?_ordered⟩
    rw [Embedder.checked_of_shape numbered.length_ordered (Listing.length_of_mem_ordered lengths)]
  · intro transport' s' t' response' listing' responded' lists' same
    have numbered : listing.Numbered texts.length := numbered
    rw [run_embed filled responded' lists', run, ← numbered.ordered_eq_of_perm same]
    rfl
  · have stays := Listing.ordered_of_unlabelled unlabelled
    have full : listing.ordered.length = texts.length := by rw [stays, List.length_map, count]
    rw [run, Embedder.checked_of_shape full (Listing.length_of_mem_ordered lengths), stays]

/-- The second vector is listed first. -/
theorem embeddings_aligned_second_first :
    let access : Access := { defaultModel := "m" }
    let text := "\x7b\"data\":[\x7b\"embedding\":[0,1],\"index\":1\x7d," ++
      "\x7b\"embedding\":[1,0],\"index\":0\x7d],\"model\":\"m\"\x7d"
    let response : Http.Response := ⟨200, .ok text.toUTF8.toList⟩
    let transport : Http.Transport Unit := fun _ => pure (.ok response)
    let one : Embedding := [.ofFloat32 1.0, .ofFloat32 0.0]
    let two : Embedding := [.ofFloat32 0.0, .ofFloat32 1.0]
    Lists response ⟨"m", [(some 1, two), (some 0, one)], none⟩ ∧
      ∃ vectors, ((Embedder.ofClient (client transport access) "m" 2).embed ["a", "b"]).run () =
          (.ok vectors, ()) ∧
        vectors.length = 2 ∧ vectors[0]? = some one ∧ vectors[1]? = some two := by
  intro access text response transport one two
  have lists : Lists response ⟨"m", [(some 1, two), (some 0, one)], none⟩ := by
    have spelled : Text.Utf8.lossy text.toUTF8.toList = text := by decide +kernel
    have read : Json.Decode.text Listing.decode text =
        some ⟨"m", [(some 1, two), (some 0, one)], none⟩ := by decide +kernel
    exact ⟨rfl, text, congrArg Except.ok spelled, read⟩
  have filled : ["a", "b"] ≠ [] := List.cons_ne_nil _ _
  have positions : ([(some 1, two), (some 0, one)].map (·.1)).Perm
      ((List.range ["a", "b"].length).map some) := .swap _ _ _
  obtain ⟨ordered, _⟩ := embeddings_aligned transport access "m" 2 ["a", "b"] filled () () response
    _ rfl lists
  obtain ⟨vectors, run, count, aligned⟩ := (ordered positions).1 (by decide)
  exact ⟨lists, vectors, run, count, (aligned 0 one).mpr (by simp), (aligned 1 two).mpr (by simp)⟩

end Backend.OpenAI

end ClaimAudit
