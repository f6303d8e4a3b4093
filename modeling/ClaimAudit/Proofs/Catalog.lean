import ClaimAudit.Proofs.JsonRoundTrip
import ClaimAudit.Proofs.Ranking
import ClaimAudit.Proofs.VectorBytes
import Mathlib.Data.Finmap

/-! What a knowledge base holds: a finite map from texts to their vectors and notes.

The store in memory keeps the map as points, the one in a table as rows of bytes and JSON text.
Both follow the map through any calls, so neither can be told from the other by its answers, but
for the order of hits of one score and the choice among such hits at the cut of a search. Texts
must have identifiers of their own, and a table must be able to read its notes back.
-/

set_option autoImplicit false

namespace ClaimAudit

namespace Knowledge

open ClaimAudit.Number (Single)

namespace Batch

variable {b : Batch}

theorem texts_joined (sound : b.problem? = none) : b.joined.map (·.text) = b.texts := by
  apply List.ext_getElem
  · rw [List.length_map, length_joined sound]
  · intro i _ _
    simp only [joined, List.getElem_map, List.getElem_zipWith, List.getElem_zip]

theorem getElem?_notes {i : Nat} (sound : b.problem? = none) (within : i < b.texts.length) :
    b.notes[i]? = some (b.metadata[i]?.getD []) := by
  unfold problem? at sound
  unfold notes
  split
  · simp_all
  · split at sound
    · cases sound
    · simp_all

theorem getElem?_joined {i : Nat} {text : String} {vector : Embedding} (sound : b.problem? = none)
    (first : b.texts[i]? = some text) (second : b.vectors[i]? = some vector) :
    b.joined[i]? = some ⟨text, vector, b.metadata[i]?.getD []⟩ := by
  have within := (List.getElem?_eq_some_iff.mp first).1
  rw [joined, List.getElem?_zipWith, getElem?_notes sound within, List.zip, List.getElem?_zipWith,
    first, second]

theorem joined_eq {i : Nat} {text : String} {vector : Embedding} (sound : b.problem? = none)
    (first : b.texts[i]? = some text) (second : b.vectors[i]? = some vector) :
    b.joined = b.joined.take i ++
      ⟨text, vector, b.metadata[i]?.getD []⟩ :: b.joined.drop (i + 1) := by
  obtain ⟨_, entry⟩ := List.getElem?_eq_some_iff.mp (getElem?_joined sound first second)
  rw [← entry, List.cons_getElem_drop_succ, List.take_append_drop]

theorem metadata_of_mem_joined {entry : Entry} (member : entry ∈ b.joined) :
    entry.metadata = [] ∨ entry.metadata ∈ b.metadata := by
  rw [joined, List.mem_iff_getElem?] at member
  obtain ⟨i, place⟩ := member
  rw [List.getElem?_zipWith_eq_some] at place
  obtain ⟨pair, metadata, _, noted, rfl⟩ := place
  have member := List.mem_of_getElem? noted
  unfold notes at member
  split at member
  · rw [List.mem_map] at member
    obtain ⟨_, _, rfl⟩ := member
    exact .inl rfl
  · exact .inr member

end Batch

inductive Call where
  | ensure
  | upsert (batch : Batch)
  | count
  | search (vector : Embedding) (limits : Limits)

inductive Answer where
  | ready
  | written (texts : Nat)
  | counted (entries : Nat)
  | found (hits : List Hit)

abbrev Outcome := Except Error Answer

namespace Store

variable {σ : Type}

def respond (store : Store σ) : Call → Action σ Answer
  | .ensure => do
    store.ensure
    return .ready
  | .upsert batch => return .written (← store.upsert batch)
  | .count => return .counted (← store.count)
  | .search vector limits => return .found (← store.search vector limits)

/-- The outcomes of calls made one after the other. A failure does not end them. -/
def serve (store : Store σ) (calls : List Call) : StateM σ (List Outcome) :=
  calls.mapM fun call => (store.respond call).run

theorem run_serve_cons (store : Store σ) (call : Call) (calls : List Call) (s : σ) :
    (store.serve (call :: calls)).run s =
      (((store.respond call).run s).1 :: ((store.serve calls).run ((store.respond call).run s).2).1,
        ((store.serve calls).run ((store.respond call).run s).2).2) := by
  rw [serve, List.mapM_cons]
  rfl

end Store

/-- The texts that a call writes. A batch of the wrong shape writes none. -/
def Call.written : Call → List String
  | .upsert batch => if batch.problem? = none then batch.texts else []
  | _ => []

abbrev Catalog := Finmap fun _ : String => Embedding × Metadata

abbrev Item := (_ : String) × Embedding × Metadata

def Item.hit (vector : Embedding) (item : Item) : Hit :=
  ⟨(pointId item.1).toString, item.1, Embedding.cosine vector item.2.1, item.2.2⟩

namespace Catalog

def write (catalog : Catalog) (entry : Entry) : Catalog :=
  catalog.insert entry.text (entry.vector, entry.metadata)

def writeAll (catalog : Catalog) (entries : List Entry) : Catalog := entries.foldl write catalog

def after (catalog : Catalog) : Call → Catalog
  | .upsert batch => if batch.problem? = none then catalog.writeAll batch.joined else catalog
  | _ => catalog

/-- What a call may answer. -/
def Allows (catalog : Catalog) : Call → Outcome → Prop
  | .ensure, outcome => outcome = .ok .ready
  | .upsert batch, outcome => outcome =
    match batch.problem? with
    | none => .ok (.written batch.texts.length)
    | some problem => .error problem.error
  | .count, outcome => outcome = .ok (.counted catalog.keys.card)
  | .search vector limits, outcome => ∃ stored hits : List Hit,
    outcome = .ok (.found hits) ∧
    (stored : Multiset Hit) = catalog.entries.map (Item.hit vector) ∧
    Ranking Hit.score limits stored hits

/-- Outcomes of calls as they follow from the map that is there before the first. -/
inductive Follows : Catalog → List Call → List Outcome → Prop where
  | done {catalog : Catalog} : Follows catalog [] []
  | next {catalog : Catalog} {call : Call} {calls : List Call} {outcome : Outcome}
    {outcomes : List Outcome} (allowed : catalog.Allows call outcome)
    (rest : Follows (catalog.after call) calls outcomes) :
    Follows catalog (call :: calls) (outcome :: outcomes)

/-- A store whose every call keeps it together with a map follows that map. -/
theorem follows_serve {σ : Type} {store : Store σ} (Holds : σ → Catalog → Prop)
    {calls : List Call} {s : σ} {catalog : Catalog} (holds : Holds s catalog)
    (step : ∀ call ∈ calls, ∀ s catalog, Holds s catalog →
      catalog.Allows call ((store.respond call).run s).1 ∧
        Holds ((store.respond call).run s).2 (catalog.after call)) :
    Follows catalog calls ((store.serve calls).run s).1 := by
  induction calls generalizing s catalog with
  | nil => exact .done
  | cons call calls ih =>
    obtain ⟨allowed, kept⟩ := step call List.mem_cons_self s catalog holds
    rw [Store.run_serve_cons]
    exact .next allowed (ih kept fun call member => step call (List.mem_cons_of_mem _ member))

section Writing

variable {catalog : Catalog} {entries : List Entry} {batch : Batch} {text : String}

theorem lookup_writeAll_of_notMem (unwritten : text ∉ entries.map (·.text)) :
    (catalog.writeAll entries).lookup text = catalog.lookup text := by
  induction entries generalizing catalog with
  | nil => rfl
  | cons entry rest ih =>
    rw [List.map_cons, List.mem_cons, not_or] at unwritten
    change (writeAll (catalog.write entry) rest).lookup text = _
    rw [ih unwritten.2, write, Finmap.lookup_insert_of_ne _ unwritten.1]

theorem lookup_writeAll_of_last {before later : List Entry} {entry : Entry}
    (last : entry.text ∉ later.map (·.text)) :
    (catalog.writeAll (before ++ entry :: later)).lookup entry.text =
      some (entry.vector, entry.metadata) := by
  rw [writeAll, List.foldl_append, List.foldl_cons]
  refine (lookup_writeAll_of_notMem last).trans ?_
  rw [write, Finmap.lookup_insert]

theorem keys_writeAll :
    (catalog.writeAll entries).keys = catalog.keys ∪ (entries.map (·.text)).toFinset := by
  induction entries generalizing catalog with
  | nil => exact (Finset.union_empty _).symm
  | cons entry rest ih =>
    change (writeAll (catalog.write entry) rest).keys = _
    rw [ih]
    ext text
    simp only [write, Finset.mem_union, Finmap.mem_keys, Finmap.mem_insert, List.mem_toFinset,
      List.map_cons, List.mem_cons]
    tauto

theorem keys_after (call : Call) :
    (catalog.after call).keys = catalog.keys ∪ call.written.toFinset := by
  cases call with
  | upsert batch =>
    by_cases sound : batch.problem? = none
    · simp only [after, Call.written, if_pos sound]
      rw [keys_writeAll, Batch.texts_joined sound]
    · simp only [after, Call.written, if_neg sound]
      exact (Finset.union_empty _).symm
  | _ => exact (Finset.union_empty _).symm

theorem entries_write {items : List Item} {entry : Entry}
    (holds : (items : Multiset Item) = catalog.entries) :
    ((List.kinsert entry.text (entry.vector, entry.metadata) items : List Item) : Multiset Item) =
      (catalog.write entry).entries := by
  induction catalog using Finmap.induction_on with
  | H entries =>
    rw [AList.toFinmap_entries, Multiset.coe_eq_coe] at holds
    rw [write, Finmap.insert_toFinmap, AList.toFinmap_entries, AList.entries_insert,
      Multiset.coe_eq_coe]
    exact holds.kinsert ((List.perm_nodupKeys holds).mpr entries.nodupKeys)

end Writing

section Items

variable {α : Type} {image : α → Item} {stored : List α} {catalog : Catalog}

theorem length_eq_card
    (holds : ((stored.map image : List Item) : Multiset Item) = catalog.entries) :
    stored.length = catalog.keys.card := by
  have size := congrArg Multiset.card holds
  rw [Multiset.coe_card, List.length_map] at size
  rw [size]
  exact (Multiset.card_map Sigma.fst catalog.entries).symm

/-- Items under keys are the entries of the map, each under the identifier of its text. -/
structure HeldBy (key : α → Uuid) (image : α → Item) (known : Set String) (stored : List α)
    (catalog : Catalog) : Prop where
  items : ((stored.map image : List Item) : Multiset Item) = catalog.entries
  ids : ∀ a ∈ stored, key a = pointId (image a).1
  known : ∀ a ∈ stored, (image a).1 ∈ known

-- An item takes the place of the one with its key, or comes last. The order apart, both are what
-- inserting does to the entries of a map.
theorem map_put {key : α → Uuid} {update : α → α} {new : α} {item : Item} (fresh : image new = item)
    (updated : ∀ a ∈ stored, key a = key new → image (update a) = item)
    (same : ∀ a ∈ stored, key a = key new ↔ (image a).1 = item.1) :
    ((put key update new stored).map image).Perm
      (List.kinsert item.1 item.2 (stored.map image)) := by
  induction stored with
  | nil => exact .of_eq (congrArg (fun item => [item]) fresh)
  | cons old rest ih =>
    obtain ⟨head, others⟩ := List.forall_mem_cons.mp same
    obtain ⟨first, later⟩ := List.forall_mem_cons.mp updated
    rw [put, List.kinsert_def, List.map_cons]
    by_cases equal : key old = key new
    · rw [if_pos equal, List.map_cons, first equal, List.kerase_cons_eq (head.mp equal).symm]
    · rw [if_neg equal, List.map_cons, List.kerase_cons_ne fun text => equal (head.mpr text.symm)]
      exact ((ih later others).cons _).trans (List.Perm.swap _ _ _)

theorem HeldBy.put {key : α → Uuid} {known : Set String} {update : α → α} {new : α} {entry : Entry}
    (holds : HeldBy key image known stored catalog) (injective : Set.InjOn pointId known)
    (among : entry.text ∈ known) (id : key new = pointId entry.text)
    (fresh : image new = ⟨entry.text, entry.vector, entry.metadata⟩)
    (updated : ∀ a, key a = key new → (image a).1 = entry.text →
      key (update a) = key new ∧ image (update a) = ⟨entry.text, entry.vector, entry.metadata⟩) :
    HeldBy key image known (put key update new stored) (catalog.write entry) := by
  have same : ∀ a ∈ stored, key a = key new ↔ (image a).1 = entry.text := fun a member => by
    rw [holds.ids a member, id]
    exact injective.eq_iff (holds.known a member) among
  have made : ∀ a ∈ stored, key a = key new →
      key (update a) = key new ∧ image (update a) = ⟨entry.text, entry.vector, entry.metadata⟩ :=
    fun a member equal => updated a equal ((same a member).mp equal)
  refine ⟨?_, fun a member => ?_, fun a member => ?_⟩
  · rw [← entries_write holds.items, Multiset.coe_eq_coe]
    exact map_put fresh (fun a member equal => (made a member equal).2) same
  · obtain rfl | old | ⟨old, place, equal, rfl⟩ := mem_put member
    · rw [id, fresh]
    · exact holds.ids a old
    · rw [(made old place equal).1, (made old place equal).2, id]
  · obtain rfl | old | ⟨old, place, equal, rfl⟩ := mem_put member
    · rwa [fresh]
    · exact holds.known a old
    · rwa [(made old place equal).2]

theorem hits_eq {hit : α → Hit} {vector : Embedding}
    (holds : ((stored.map image : List Item) : Multiset Item) = catalog.entries)
    (same : ∀ a ∈ stored, hit a = (image a).hit vector) :
    ((stored.map hit : List Hit) : Multiset Hit) = catalog.entries.map (Item.hit vector) := by
  rw [← holds, Multiset.map_coe, List.map_map, Multiset.coe_eq_coe]
  exact .of_eq (List.map_congr_left same)

end Items

end Catalog

namespace Memory

variable {points : Points} {catalog : Catalog} {known : Set String}

def item (p : Uuid × Entry) : Item := ⟨p.2.text, p.2.vector, p.2.metadata⟩

abbrev Holds (known : Set String) (points : Points) (catalog : Catalog) : Prop :=
  Catalog.HeldBy (·.1) item known points catalog

theorem Holds.putAll {entries : List Entry} (holds : Holds known points catalog)
    (injective : Set.InjOn pointId known) (new : ∀ entry ∈ entries, entry.text ∈ known) :
    Holds known (putAll entries points) (catalog.writeAll entries) :=
  List.foldl_rel holds fun entry member _ _ holds =>
    holds.put injective (new entry member) rfl rfl fun _ _ _ => ⟨rfl, rfl⟩

theorem Holds.hits (holds : Holds known points catalog) (vector : Embedding) :
    ((points.map fun p => hit vector p.1 p.2 : List Hit) : Multiset Hit) =
      catalog.entries.map (Item.hit vector) :=
  Catalog.hits_eq holds.items fun p member => congrArg
    (fun id : Uuid => Hit.mk id.toString _ _ _) (holds.ids p member)

theorem run_upsert (batch : Batch) (points : Points) :
    (store.upsert batch).run points =
      match batch.problem? with
      | none => (.ok batch.texts.length, Memory.putAll batch.joined points)
      | some problem => (.error problem.error, points) := by
  rw [store, Action.run_bind, Action.run_liftExcept, Batch.entries]
  cases batch.problem? <;> rfl

theorem respond_follows (call : Call) (holds : Holds known points catalog)
    (injective : Set.InjOn pointId known) (new : ∀ text ∈ call.written, text ∈ known) :
    catalog.Allows call ((store.respond call).run points).1 ∧
      Holds known ((store.respond call).run points).2 (catalog.after call) := by
  cases call with
  | ensure => exact ⟨rfl, holds⟩
  | count =>
    have size : points.length = catalog.keys.card := Catalog.length_eq_card holds.items
    exact ⟨congrArg (fun n => (.ok (.counted n) : Outcome)) size, holds⟩
  | search vector limits =>
    rw [Store.respond, Action.run_bind, run_search]
    exact ⟨⟨_, _, rfl, holds.hits vector, Hit.ranking_rank limits _⟩, holds⟩
  | upsert batch =>
    rw [Store.respond, Action.run_bind, run_upsert, Catalog.Allows, Catalog.after]
    cases shape : batch.problem? with
    | some problem => exact ⟨rfl, holds⟩
    | none =>
      refine ⟨rfl, holds.putAll injective fun entry member => new _ ?_⟩
      rw [Call.written, if_pos shape, ← Batch.texts_joined shape]
      exact List.mem_map_of_mem member

end Memory

namespace Table

variable {rows : List Row} {catalog : Catalog} {known : Set String}

def Row.item (row : Row) : Item := ⟨row.text, row.stored, readMetadata row.metadata⟩

structure Holds (known : Set String) (rows : List Row) (catalog : Catalog) : Prop
    extends Catalog.HeldBy Row.id Row.item known rows catalog where
  readable : ∀ row ∈ rows, row.vector = .ok row.stored

/-- Notes that a table gives back as they are: maps, in the one form that a map has as a list, not
nested too deep, whose numbers come back from their texts. -/
def Storable (metadata : Metadata) : Prop :=
  (Json.Value.object metadata).Ordered ∧
    (∀ note ∈ metadata, note.2.depth ≤ 126) ∧
    ∀ n ∈ (Json.Value.object metadata).numbers, n.Survives

theorem storable_nil : Storable [] :=
  ⟨⟨List.Pairwise.nil, trivial⟩, List.forall_mem_nil _, List.forall_mem_nil _⟩

theorem readMetadata_render {metadata : Metadata} (storable : Storable metadata) :
    readMetadata (Json.Value.object metadata).render = metadata := by
  obtain ⟨ordered, shallow, survive⟩ := storable
  have read := Json.ofString?_render survive ordered
    (Nat.succ_le_succ (Json.membersDepth_le_iff.mpr shallow))
  rw [readMetadata, read]

-- An update keeps identifier and text of the row, which are those of the entry already.
theorem item_written {entry : Entry} (storable : Storable entry.metadata) (row : Row) :
    Row.item ((Row.of entry).updated row) = ⟨row.text, entry.vector, entry.metadata⟩ := by
  change (⟨row.text, Embedding.ofBytes (Embedding.bytes entry.vector),
    readMetadata (Json.Value.object entry.metadata).render⟩ : Item) = _
  rw [Embedding.ofBytes_bytes, readMetadata_render storable]

theorem readable_put (readable : ∀ row ∈ rows, row.vector = .ok row.stored) (entry : Entry) :
    ∀ row ∈ put (Row.of entry) rows, row.vector = .ok row.stored := by
  intro row member
  obtain rfl | same | ⟨old, _, _, rfl⟩ := mem_put member
  · rfl
  · exact readable row same
  · rfl

theorem Holds.put {entry : Entry} (holds : Holds known rows catalog)
    (injective : Set.InjOn pointId known) (new : entry.text ∈ known)
    (storable : Storable entry.metadata) :
    Holds known (put (Row.of entry) rows) (catalog.write entry) where
  toHeldBy := holds.toHeldBy.put injective new rfl (item_written storable (Row.of entry))
    fun row id text => ⟨id, by rw [item_written storable, show row.text = entry.text from text]⟩
  readable := readable_put holds.readable entry

theorem Holds.putAll {entries : List Entry} (holds : Holds known rows catalog)
    (injective : Set.InjOn pointId known) (new : ∀ entry ∈ entries, entry.text ∈ known)
    (storable : ∀ entry ∈ entries, Storable entry.metadata) :
    Holds known (putAll entries rows) (catalog.writeAll entries) :=
  List.foldl_rel holds fun entry member _ _ holds =>
    holds.put injective (new entry member) (storable entry member)

theorem Holds.hits (holds : Holds known rows catalog) (vector : Embedding) :
    ((rows.map (Row.found vector) : List Hit) : Multiset Hit) =
      catalog.entries.map (Item.hit vector) :=
  Catalog.hits_eq holds.items fun row member => congrArg
    (fun id : Uuid => Hit.mk id.toString _ _ _) (holds.ids row member)

theorem run_upsert (batch : Batch) (rows : List Row) :
    (store.upsert batch).run (some rows) =
      match batch.problem? with
      | none => (.ok batch.texts.length, some (Table.putAll batch.joined rows))
      | some problem => (.error problem.error, some rows) := by
  rw [store, Action.run_bind, Action.run_liftExcept, Batch.entries]
  cases batch.problem? <;> rfl

theorem respond_follows (call : Call) (holds : Holds known rows catalog)
    (injective : Set.InjOn pointId known) (new : ∀ text ∈ call.written, text ∈ known)
    (storable : ∀ batch, call = .upsert batch → ∀ metadata ∈ batch.metadata, Storable metadata) :
    catalog.Allows call ((store.respond call).run (some rows)).1 ∧
      ∃ left, ((store.respond call).run (some rows)).2 = some left ∧
        Holds known left (catalog.after call) := by
  cases call with
  | ensure => exact ⟨rfl, rows, rfl, holds⟩
  | count =>
    have size : rows.length = catalog.keys.card := Catalog.length_eq_card holds.items
    exact ⟨congrArg (fun n => (.ok (.counted n) : Outcome)) size, rows, rfl, holds⟩
  | search vector limits =>
    obtain ⟨readable, read⟩ | ⟨⟨row, member, unread⟩, _⟩ := mapM_hit vector rows
    · rw [Store.respond, Action.run_bind, run_search, search, read]
      exact ⟨⟨_, _, rfl, holds.hits vector, Hit.ranking_rank limits _⟩, rows, rfl, holds⟩
    · rw [holds.readable row member] at unread
      cases unread
  | upsert batch =>
    rw [Store.respond, Action.run_bind, run_upsert, Catalog.Allows, Catalog.after]
    cases shape : batch.problem? with
    | some problem => exact ⟨rfl, rows, rfl, holds⟩
    | none =>
      refine ⟨rfl, _, rfl, holds.putAll injective (fun entry member => new _ ?_)
        fun entry member => ?_⟩
      · rw [Call.written, if_pos shape, ← Batch.texts_joined shape]
        exact List.mem_map_of_mem member
      · obtain empty | given := Batch.metadata_of_mem_joined member
        · rw [empty]
          exact storable_nil
        · exact storable batch rfl _ given

end Table

/-- Whether two outcomes of a call tell a caller the same. -/
def Call.Alike : Call → Outcome → Outcome → Prop
  | .search _ limits, .ok (.found first), .ok (.found second) =>
    Agree Hit.score limits first second
  | _, first, second => first = second

namespace Catalog

variable {catalog : Catalog} {call : Call} {calls : List Call} {one other : Outcome}
  {ones others outcomes : List Outcome}

theorem Allows.alike (first : catalog.Allows call one) (second : catalog.Allows call other) :
    call.Alike one other := by
  cases call with
  | search vector limits =>
    obtain ⟨stored, hits, rfl, listed, ranking⟩ := first
    obtain ⟨stored', hits', rfl, listed', ranking'⟩ := second
    have same : stored'.Perm stored := Multiset.coe_eq_coe.mp (listed'.trans listed.symm)
    exact ranking.agree (ranking'.perm same)
  | _ => exact first.trans second.symm

theorem Follows.alike (first : catalog.Follows calls ones) (second : catalog.Follows calls others)
    {i : Nat} (place : calls[i]? = some call) :
    ∃ one other, ones[i]? = some one ∧ others[i]? = some other ∧ call.Alike one other := by
  induction first generalizing others i with
  | done => cases place
  | next allowed rest ih =>
    obtain _ | ⟨allowed', rest'⟩ := second
    cases i with
    | zero =>
      cases place
      exact ⟨_, _, rfl, rfl, allowed.alike allowed'⟩
    | succ i => exact ih rest' place

theorem Follows.counted (follows : catalog.Follows calls outcomes) {i : Nat}
    (place : calls[i]? = some .count) : outcomes[i]? = some (.ok (.counted
      (catalog.keys ∪ ((calls.take i).flatMap Call.written).toFinset).card)) := by
  induction follows generalizing i with
  | done => cases place
  | @next catalog call calls outcome outcomes allowed rest ih =>
    cases i with
    | zero =>
      cases place
      rw [List.take_zero, List.flatMap_nil, List.toFinset_nil, Finset.union_empty]
      exact congrArg some allowed
    | succ i =>
      rw [List.take_succ_cons, List.flatMap_cons, List.toFinset_append, ← Finset.union_assoc,
        ← keys_after]
      exact ih place

end Catalog

theorem lookup_after {catalog : Catalog} {batch : Batch} (sound : batch.problem? = none) :
    (∀ i text vector, batch.texts[i]? = some text → batch.vectors[i]? = some vector →
      text ∉ batch.texts.drop (i + 1) → (catalog.after (.upsert batch)).lookup text =
        some (vector, batch.metadata[i]?.getD [])) ∧
    ∀ text ∉ batch.texts, (catalog.after (.upsert batch)).lookup text = catalog.lookup text := by
  rw [Catalog.after, if_pos sound]
  refine ⟨fun i text vector first second last => ?_, fun text unwritten => ?_⟩
  · rw [Batch.joined_eq sound first second]
    refine Catalog.lookup_writeAll_of_last ?_
    rwa [List.map_drop, Batch.texts_joined sound]
  · refine Catalog.lookup_writeAll_of_notMem ?_
    rwa [Batch.texts_joined sound]

theorem failed_upsert {batch : Batch} {problem : Batch.Problem}
    (unsound : batch.problem? = some problem) :
    (∀ points, (Memory.store.upsert batch).run points = (.error problem.error, points)) ∧
    ∀ contents, (Table.store.upsert batch).run contents = (.error problem.error, contents) := by
  refine ⟨fun points => ?_, fun contents => ?_⟩
  · rw [Memory.run_upsert, unsound]
  · rw [Table.store, Action.run_bind, Action.run_liftExcept, Batch.entries, unsound]

/-- The store in memory and the store in a table implement one map from texts to their vectors and
notes. They answer alike through any calls, and an upsert that fails leaves either as it was. -/
theorem local_stores_follow_catalog (calls : List Call)
    (injective : Set.InjOn pointId {text | text ∈ calls.flatMap Call.written})
    (storable : ∀ batch, Call.upsert batch ∈ calls →
      ∀ metadata ∈ batch.metadata, Table.Storable metadata) :
    let memory := ((Memory.store.serve calls).run []).1
    let table := ((Table.store.serve calls).run (some [])).1
    Catalog.Follows ∅ calls memory ∧ Catalog.Follows ∅ calls table ∧
    (∀ (i : Nat) (call : Call), calls[i]? = some call → ∃ one other,
      memory[i]? = some one ∧ table[i]? = some other ∧ call.Alike one other) ∧
    (∀ i : Nat, calls[i]? = some Call.count → memory[i]? = some (Except.ok (Answer.counted
      ((calls.take i).flatMap Call.written).toFinset.card))) ∧
    (∀ (catalog : Catalog) (batch : Batch), batch.problem? = none →
      (∀ i text vector, batch.texts[i]? = some text → batch.vectors[i]? = some vector →
        text ∉ batch.texts.drop (i + 1) → (catalog.after (.upsert batch)).lookup text =
          some (vector, batch.metadata[i]?.getD [])) ∧
      ∀ text ∉ batch.texts,
        (catalog.after (.upsert batch)).lookup text = catalog.lookup text) ∧
    (∀ batch problem, batch.problem? = some problem →
      (∀ points, (Memory.store.upsert batch).run points = (.error problem.error, points)) ∧
      ∀ contents, (Table.store.upsert batch).run contents = (.error problem.error, contents)) ∧
    ∀ (limits : Limits) (hits others : List Hit), hits.Perm others →
      Agree Hit.score limits (Hit.rank limits hits) (Hit.rank limits others) := by
  intro memory table
  have new : ∀ call ∈ calls, ∀ text ∈ call.written, text ∈ calls.flatMap Call.written :=
    fun call member text written => List.mem_flatMap.mpr ⟨call, member, written⟩
  have first : Catalog.Follows ∅ calls memory :=
    Catalog.follows_serve (Memory.Holds {text | text ∈ calls.flatMap Call.written})
      ⟨rfl, List.forall_mem_nil _, List.forall_mem_nil _⟩
      fun call member points catalog holds =>
        Memory.respond_follows call holds injective (new call member)
  have second : Catalog.Follows ∅ calls table := by
    refine Catalog.follows_serve (fun contents catalog => ∃ rows, contents = some rows ∧
        Table.Holds {text | text ∈ calls.flatMap Call.written} rows catalog)
      ⟨[], rfl, ⟨rfl, List.forall_mem_nil _, List.forall_mem_nil _⟩, List.forall_mem_nil _⟩
      fun call member contents catalog holds => ?_
    obtain ⟨rows, rfl, holds⟩ := holds
    refine Table.respond_follows call holds injective (new call member) fun batch same => ?_
    exact storable batch (same ▸ member)
  refine ⟨first, second, fun i call place => first.alike second place, fun i place => ?_,
    fun catalog batch sound => lookup_after sound,
    fun batch problem unsound => failed_upsert unsound,
    fun limits hits others same =>
      ((Hit.ranking_rank limits hits).perm same).agree (Hit.ranking_rank limits others)⟩
  have counted := first.counted place
  rwa [Finmap.keys_empty, Finset.empty_union] at counted

def reseeding : List Call :=
  [.ensure,
    .upsert ⟨["a", "b", "a"], [[⟨1⟩], [⟨2⟩], [⟨3⟩]], [[("rank", .ofNat 1)], [], []]⟩,
    .upsert ⟨["a"], [], []⟩, .count, .search [] ⟨2, .zero⟩]

theorem local_stores_follow_catalog_reseeding :
    Set.InjOn pointId {text | text ∈ reseeding.flatMap Call.written} ∧
    (∀ batch, Call.upsert batch ∈ reseeding →
      ∀ metadata ∈ batch.metadata, Table.Storable metadata) ∧
    Catalog.Follows ∅ reseeding ((Memory.store.serve reseeding).run []).1 ∧
    Catalog.Follows ∅ reseeding ((Table.store.serve reseeding).run (some [])).1 := by
  have distinct : pointId "a" ≠ pointId "b" := by decide +kernel
  have injective : Set.InjOn pointId {text | text ∈ reseeding.flatMap Call.written} := by
    have texts : reseeding.flatMap Call.written = ["a", "b", "a"] := by decide
    rw [texts]
    intro x hx y hy same
    simp only [Set.mem_ofPred_eq, List.mem_cons, List.not_mem_nil, or_false] at hx hy
    grind
  have storable : ∀ batch, Call.upsert batch ∈ reseeding →
      ∀ metadata ∈ batch.metadata, Table.Storable metadata := by
    intro batch member metadata given
    simp only [reseeding, List.mem_cons, Call.upsert.injEq, reduceCtorEq, List.not_mem_nil,
      false_or, or_false] at member
    obtain rfl | rfl := member
    · simp only [List.mem_cons, List.not_mem_nil, or_false, or_self] at given
      obtain rfl | rfl := given
      · refine ⟨⟨List.pairwise_singleton _ _, trivial, trivial⟩, ?_, ?_⟩
        · intro note member
          rw [List.mem_singleton.mp member]
          exact Nat.zero_le _
        · intro n member
          rw [List.mem_singleton.mp member]
          exact Json.survives_whole (by decide)
      · exact Table.storable_nil
    · cases given
  have alike := local_stores_follow_catalog reseeding injective storable
  exact ⟨injective, storable, alike.1, alike.2.1⟩

end Knowledge

end ClaimAudit
