import ClaimAudit.Proofs.Catalog
import ClaimAudit.Proofs.JsonNesting

/-! Which notes a table gives back.

Notes are written as text at any depth, but a text is read only if it nests within a limit, and
notes that are not read count as none. So after the last write of a text, whatever is written
besides, a search that finds the text shows its notes as they were given or, where they nest too
deep, shows none.
-/

set_option autoImplicit false

namespace ClaimAudit

namespace Json

mutual

theorem Value.depth_tree : (v : Value) → v.tree.depth = v.depth
  | .null | .bool _ | .number _ | .string _ => rfl
  | .array items => congrArg (· + 1) (treesDepth_trees items)
  | .object members => congrArg (· + 1) (memberTreesDepth_memberTrees members)

theorem treesDepth_trees : (items : List Value) → treesDepth (trees items) = itemsDepth items
  | [] => rfl
  | item :: rest => congrArg₂ max item.depth_tree (treesDepth_trees rest)

theorem memberTreesDepth_memberTrees : (members : List (String × Value)) →
    memberTreesDepth (memberTrees members) = membersDepth members
  | [] => rfl
  | (_, item) :: rest => congrArg₂ max item.depth_tree (memberTreesDepth_memberTrees rest)

end

theorem Value.isSome_ofString?_render_iff {v : Value} (survive : ∀ n ∈ v.numbers, n.Survives) :
    (Value.ofString? v.render).isSome = true ↔ v.depth ≤ maxLevels := by
  rw [ofString?_render_eq survive]
  constructor
  · intro valued
    rw [← v.depth_tree]
    exact ((v.tree.isSome_value?_iff maxLevels).mp valued).1
  · intro shallow
    obtain ⟨w, valued, _⟩ := exists_value?_tree v shallow
    exact valued ▸ rfl

def Value.nested : Nat → Value
  | 0 => .null
  | levels + 1 => .array [nested levels]

theorem Value.depth_nested (levels : Nat) : (nested levels).depth = levels := by
  induction levels with
  | zero => rfl
  | succ levels ih => rw [nested, depth, itemsDepth, itemsDepth, ih, Nat.max_zero]

theorem Value.numbers_nested (levels : Nat) : (nested levels).numbers = [] := by
  induction levels with
  | zero => rfl
  | succ levels ih => rw [nested, numbers, itemNumbers, itemNumbers, ih, List.append_nil]

theorem Value.ordered_nested (levels : Nat) : (nested levels).Ordered := by
  induction levels with
  | zero => trivial
  | succ levels ih => exact ⟨ih, trivial⟩

end Json

namespace Knowledge.Table

open ClaimAudit.Number (Single)

variable {rows : List Row} {entry other : Entry} {text : String}

theorem readMetadata_render_eq {metadata : Metadata}
    (ordered : (Json.Value.object metadata).Ordered)
    (survive : ∀ n ∈ (Json.Value.object metadata).numbers, n.Survives) :
    readMetadata (Json.Value.object metadata).render =
      if ∀ note ∈ metadata, note.2.depth ≤ 126 then metadata else [] := by
  split
  case isTrue shallow => exact readMetadata_render ⟨ordered, shallow, survive⟩
  case isFalse deep =>
    have unread : Json.Value.ofString? (Json.Value.object metadata).render = none := by
      rw [← Option.not_isSome_iff_eq_none, Json.Value.isSome_ofString?_render_iff survive]
      exact fun within => deep (Json.membersDepth_le_iff.mp (Nat.le_of_succ_le_succ within))
    rw [readMetadata, unread]

section Rows

/-- Rows that can all be searched, no two under one identifier; a text has its own. -/
structure Sound (text : String) (rows : List Row) : Prop where
  distinct : (rows.map (·.id)).Nodup
  own : ∀ row ∈ rows, row.text = text ↔ row.id = pointId text
  readable : ∀ row ∈ rows, row.vector = .ok row.stored

theorem sound_nil (text : String) : Sound text [] :=
  ⟨List.nodup_nil, List.forall_mem_nil _, List.forall_mem_nil _⟩

theorem Sound.put (sound : Sound text rows)
    (apart : pointId other.text = pointId text → other.text = text) :
    Sound text (put (Row.of other) rows) where
  distinct := nodup_map_key_put (fun _ same => same) sound.distinct
  own row member := by
    obtain rfl | same | ⟨old, place, _, rfl⟩ := mem_put member
    · exact ⟨fun equal => congrArg pointId equal, apart⟩
    · exact sound.own row same
    · exact sound.own old place
  readable := readable_put sound.readable other

/-- The row of an entry is there, and no other row has its text. -/
structure Keeps (entry : Entry) (rows : List Row) : Prop where
  present : Row.of entry ∈ rows
  alone : ∀ row ∈ rows, row.text = entry.text → row = Row.of entry

theorem Sound.keeps_put (sound : Sound entry.text rows) :
    Keeps entry (Table.put (Row.of entry) rows) := by
  have after : Sound entry.text (Table.put (Row.of entry) rows) := sound.put fun _ => rfl
  have present : Row.of entry ∈ Table.put (Row.of entry) rows := by
    refine mem_put_self fun row member same => ?_
    have text : row.text = entry.text := (sound.own row member).mpr same
    rw [Row.updated, same, Row.of, ← text]
  -- No other row has the identifier of the text, and so none has the text.
  refine ⟨present, fun row member named => ?_⟩
  exact List.inj_on_of_nodup_map after.distinct member present ((after.own row member).mp named)

theorem Keeps.put (keeps : Keeps entry rows) (apart : pointId other.text ≠ pointId entry.text) :
    Keeps entry (Table.put (Row.of other) rows) where
  present := mem_put_of_ne keeps.present apart.symm
  alone row member named := by
    obtain rfl | same | ⟨old, place, updated, rfl⟩ := mem_put member
    · exact absurd (congrArg pointId named) apart
    · exact keeps.alone row same named
    · rw [keeps.alone old place named] at updated
      exact absurd updated.symm apart

end Rows

section Histories

variable {P : List Row → Prop} {entries : List Entry} {call : Call} {calls : List Call}

theorem putAll_keeps (holds : P rows)
    (step : ∀ entry ∈ entries, ∀ rows, P rows → P (put (Row.of entry) rows)) :
    P (putAll entries rows) :=
  List.foldlRecOn entries _ holds fun rows holds entry member => step entry member rows holds

theorem respond_keeps (holds : P rows)
    (step : ∀ entry : Entry, entry.text ∈ call.written → ∀ rows, P rows →
      P (put (Row.of entry) rows)) :
    ∃ left, ((store.respond call).run (some rows)).2 = some left ∧ P left := by
  cases call with
  | ensure => exact ⟨rows, rfl, holds⟩
  | count => exact ⟨rows, rfl, holds⟩
  | search vector limits =>
    refine ⟨rows, ?_, holds⟩
    rw [Store.respond, Action.run_bind, run_search]
    cases search rows vector limits <;> rfl
  | upsert batch =>
    rw [Store.respond, Action.run_bind, run_upsert]
    cases shape : batch.problem? with
    | some problem => exact ⟨rows, rfl, holds⟩
    | none =>
      refine ⟨_, rfl, putAll_keeps holds fun entry member => step entry ?_⟩
      rw [Call.written, if_pos shape, ← Batch.texts_joined shape]
      exact List.mem_map_of_mem member

theorem serve_keeps (holds : P rows)
    (step : ∀ entry : Entry, entry.text ∈ calls.flatMap Call.written → ∀ rows, P rows →
      P (put (Row.of entry) rows)) :
    ∃ left, ((store.serve calls).run (some rows)).2 = some left ∧ P left := by
  induction calls generalizing rows with
  | nil => exact ⟨rows, rfl, holds⟩
  | cons call calls ih =>
    simp only [List.flatMap_cons, List.mem_append] at step
    obtain ⟨between, ran, kept⟩ := respond_keeps holds fun entry among => step entry (.inl among)
    rw [Store.run_serve_cons, ran]
    exact ih kept fun entry among => step entry (.inr among)

theorem keeps_other (entry other : Entry) (kept : Sound entry.text rows ∧ Keeps entry rows)
    (apart : pointId other.text = pointId entry.text → other.text = entry.text)
    (differs : other.text ≠ entry.text) :
    Sound entry.text (put (Row.of other) rows) ∧ Keeps entry (put (Row.of other) rows) :=
  ⟨kept.1.put apart, kept.2.put fun same => differs (apart same)⟩

/-- A batch leaves the row of the entry that is the last of its text. -/
theorem putAll_batch {batch : Batch} {i : Nat} {vector : Embedding} (sound : Sound text rows)
    (shape : batch.problem? = none) (placed : batch.texts[i]? = some text)
    (embedded : batch.vectors[i]? = some vector) (last : text ∉ batch.texts.drop (i + 1))
    (own : ∀ other ∈ batch.texts, pointId other = pointId text → other = text) :
    Sound text (putAll batch.joined rows) ∧
      Keeps ⟨text, vector, batch.metadata[i]?.getD []⟩ (putAll batch.joined rows) := by
  have written : ∀ other ∈ batch.joined, pointId other.text = pointId text → other.text = text :=
    fun other member => own _ (Batch.texts_joined shape ▸ List.mem_map_of_mem member)
  have front : Sound text (putAll (batch.joined.take i) rows) :=
    putAll_keeps sound fun other member rows sound =>
      sound.put (written other (List.mem_of_mem_take member))
  let entry : Entry := ⟨text, vector, batch.metadata[i]?.getD []⟩
  rw [Batch.joined_eq shape placed embedded, putAll, List.foldl_append, List.foldl_cons]
  refine putAll_keeps (P := fun rows => Sound text rows ∧ Keeps entry rows)
    ⟨front.put fun _ => rfl, front.keeps_put⟩ fun other member rows kept => ?_
  refine keeps_other entry other kept (written other (List.mem_of_mem_drop member)) ?_
  rintro rfl
  rw [← Batch.texts_joined shape, ← List.map_drop] at last
  exact last (List.mem_map_of_mem member)

end Histories

/-- A search among rows that can be read has hits. Those of a kept entry show what is read of its
notes, and there is one if nothing is left out. -/
theorem search_kept (sound : Sound entry.text rows) (keeps : Keeps entry rows) (query : Embedding)
    (limits : Limits) : ∃ hits, search rows query limits = .ok hits ∧
      (∀ hit ∈ hits, hit.text = entry.text →
        hit.metadata = readMetadata (Json.Value.object entry.metadata).render) ∧
      (rows.length ≤ limits.topK →
        limits.threshold.atMost (Embedding.cosine query entry.vector) = true →
          ∃ hit ∈ hits, hit.text = entry.text) := by
  obtain ⟨_, read⟩ | ⟨⟨row, member, unread⟩, _⟩ := mapM_hit query rows
  · obtain ⟨chosen, found, ranking⟩ := @search_ranks rows query limits read
    obtain ⟨left, permuted, missed⟩ := ranking.selects.complete
    refine ⟨_, found, fun hit member named => ?_, fun wide near => ?_⟩
    · obtain ⟨row, picked, rfl⟩ := List.mem_map.mp member
      have stored : row ∈ rows := permuted.subset (List.mem_append_left left picked)
      rw [keeps.alone row stored named]
      rfl
    · have vector : (Row.of entry).stored = entry.vector := Embedding.ofBytes_bytes entry.vector
      rcases List.mem_append.mp (permuted.mem_iff.mpr keeps.present) with picked | behind
      · exact ⟨_, List.mem_map_of_mem picked, rfl⟩
      · -- With room for all rows only those below the threshold are left out.
        have size := permuted.length_eq
        have more := List.length_pos_of_mem behind
        rw [List.length_append] at size
        rcases missed _ behind with below | ⟨full, _⟩
        · rw [vector, near] at below
          cases below
        · omega
  · rw [sound.readable row member] at unread
    cases unread

/-- After the last write of a text, any search that finds it shows the notes it was written with
if none of them nests deeper than 126 levels, and no notes if one does. A search that asks for no
fewer hits than there are rows does find it, if its vector is near enough. No other text may have
the same identifier. -/
theorem notes_read_back (before later : List Call) (batch : Batch) (i : Nat) (text : String)
    (vector : Embedding) (shape : batch.problem? = none) (placed : batch.texts[i]? = some text)
    (embedded : batch.vectors[i]? = some vector) (last : text ∉ batch.texts.drop (i + 1))
    (final : text ∉ later.flatMap Call.written)
    (own : ∀ other ∈ before.flatMap Call.written ++ batch.texts ++ later.flatMap Call.written,
      pointId other = pointId text → other = text)
    (ordered : (Json.Value.object (batch.metadata[i]?.getD [])).Ordered)
    (survive : ∀ n ∈ (Json.Value.object (batch.metadata[i]?.getD [])).numbers, n.Survives) :
    let metadata := batch.metadata[i]?.getD []
    let contents := ((store.serve before).run (some [])).2
    let left := ((store.serve later).run ((store.upsert batch).run contents).2).2
    ((store.upsert batch).run contents).1 = .ok batch.texts.length ∧
    ∃ count, (store.count.run left).1 = .ok count ∧
      ∀ (query : Embedding) (limits : Limits), ∃ hits,
        ((store.search query limits).run left).1 = .ok hits ∧
        (∀ hit ∈ hits, hit.text = text →
          hit.metadata = if ∀ note ∈ metadata, note.2.depth ≤ 126 then metadata else []) ∧
        (count ≤ limits.topK → limits.threshold.atMost (Embedding.cosine query vector) = true →
          ∃ hit ∈ hits, hit.text = text) := by
  intro metadata contents left
  simp only [List.mem_append, or_assoc] at own
  -- `Sound` carries over the calls before the batch, `Keeps` over those behind it.
  have earlier : ∃ rows, ((store.serve before).run (some [])).2 = some rows ∧ Sound text rows :=
    serve_keeps (sound_nil text) fun other among rows sound => sound.put (own _ (.inl among))
  obtain ⟨rows, ran, sound⟩ := earlier
  have upserted : (store.upsert batch).run contents =
      (.ok batch.texts.length, some (putAll batch.joined rows)) := by
    rw [show contents = some rows from ran, run_upsert, shape]
  have kept := putAll_batch sound shape placed embedded last fun other among =>
    own other (.inr (.inl among))
  let entry : Entry := ⟨text, vector, metadata⟩
  have ending : ∃ rows, left = some rows ∧ Sound text rows ∧ Keeps entry rows := by
    show ∃ rows, ((store.serve later).run ((store.upsert batch).run contents).2).2 = some rows ∧ _
    rw [upserted]
    refine serve_keeps kept fun other among rows kept =>
      keeps_other entry other kept (own _ (.inr (.inr among))) ?_
    rintro rfl
    exact final among
  obtain ⟨rows, ended, sound, keeps⟩ := ending
  rw [upserted, ended]
  refine ⟨rfl, rows.length, rfl, fun query limits => ?_⟩
  obtain ⟨hits, found, shown, present⟩ := search_kept sound keeps query limits
  refine ⟨hits, ?_, fun hit member named => ?_, present⟩
  · rw [run_search, found]
  · rw [shown hit member named]
    exact readMetadata_render_eq ordered survive

def path (levels : Nat) : Metadata := [("path", .nested levels)]

theorem ordered_path (levels : Nat) : (Json.Value.object (path levels)).Ordered :=
  ⟨List.pairwise_singleton _ _, Json.Value.ordered_nested levels, trivial⟩

theorem numbers_path (levels : Nat) : (Json.Value.object (path levels)).numbers = [] := by
  rw [path, Json.Value.numbers, Json.memberNumbers, Json.memberNumbers, Json.Value.numbers_nested,
    List.append_nil]

theorem readMetadata_path (levels : Nat) : readMetadata (Json.Value.object (path levels)).render =
    if levels ≤ 126 then path levels else [] := by
  have survive : ∀ n ∈ (Json.Value.object (path levels)).numbers, n.Survives := by
    rw [numbers_path]
    exact List.forall_mem_nil _
  rw [readMetadata_render_eq (ordered_path levels) survive]
  simp only [path, List.forall_mem_singleton, Json.Value.depth_nested]

def capital (levels : Nat) : Batch :=
  ⟨["Paris is the capital of France."], [[.ofFloat32 1, .zero]], [path levels]⟩

/-- The deepest note that is read back. -/
theorem notes_read_back_at_limit :
    let batch := capital 126
    let left := ((store.serve [.count]).run ((store.upsert batch).run (some [])).2).2
    batch.problem? = none ∧ (Json.Value.object (path 126)).Ordered ∧
    ∃ hits, ((store.search [.ofFloat32 1, .zero] ⟨3, .ofFloat32 0.3⟩).run left).1 = .ok hits ∧
      (∀ hit ∈ hits, hit.text = "Paris is the capital of France." → hit.metadata = path 126) ∧
      ∃ hit ∈ hits, hit.text = "Paris is the capital of France." := by
  intro batch left
  have shape : batch.problem? = none := rfl
  have survive : ∀ n ∈ (Json.Value.object (path 126)).numbers, n.Survives := by
    rw [numbers_path]
    exact List.forall_mem_nil _
  have shallow : ∀ note ∈ path 126, note.2.depth ≤ 126 := by
    simp only [path, List.forall_mem_singleton, Json.Value.depth_nested, le_refl]
  have own : ∀ other ∈ [] ++ batch.texts ++ [], pointId other =
      pointId "Paris is the capital of France." → other = "Paris is the capital of France." :=
    fun other among _ => by simpa [batch, capital] using among
  obtain ⟨_, count, counted, found⟩ := notes_read_back [.ensure] [.count] batch 0 _ _ shape rfl rfl
    List.not_mem_nil List.not_mem_nil own (ordered_path 126) survive
  obtain ⟨hits, searched, shown, present⟩ := found [.ofFloat32 1, .zero] ⟨3, .ofFloat32 0.3⟩
  have few : count ≤ 3 := by
    cases counted
    decide
  refine ⟨shape, ordered_path 126, hits, searched, fun hit member named => ?_,
    present few (by decide +kernel)⟩
  rw [shown hit member named]
  exact if_pos shallow

/-- One level more is lost in a table, while the store in memory shows the note. -/
theorem deep_note_is_lost :
    let vector : Embedding := [.ofFloat32 1, .zero]
    let calls : List Call := [.upsert (capital 127), .search vector ⟨1, .ofFloat32 0.3⟩]
    let hit (metadata : Metadata) : Hit := ⟨(pointId "Paris is the capital of France.").toString,
      "Paris is the capital of France.", .ofFloat32 1, metadata⟩
    (Json.Value.object (path 127)).Ordered ∧ (Json.Value.object (path 127)).numbers = [] ∧
    ((store.serve calls).run (some [])).1 = [.ok (.written 1), .ok (.found [hit []])] ∧
    ((Memory.store.serve calls).run []).1 =
      [.ok (.written 1), .ok (.found [hit (path 127)])] := by
  intro vector calls hit
  have score : Embedding.cosine vector vector = .ofFloat32 1 := by decide +kernel
  have ranked (metadata : Metadata) : Hit.rank ⟨1, .ofFloat32 0.3⟩ [hit metadata] =
      [hit metadata] := by
    have reached : (hit metadata).admitted (.ofFloat32 0.3) = true := by
      show (Single.ofFloat32 0.3).atMost (.ofFloat32 1) = true
      decide +kernel
    rw [Hit.rank, List.filter_cons_of_pos reached, List.filter_nil, List.mergeSort_singleton]
    rfl
  let entry : Entry := ⟨"Paris is the capital of France.", vector, path 127⟩
  refine ⟨ordered_path 127, numbers_path 127, ?_, ?_⟩
  · have read : Row.hit vector (Row.of entry) = .ok (hit []) := by
      show Except.ok (Hit.mk _ _
        (Embedding.cosine vector (Embedding.ofBytes (Embedding.bytes vector)))
        (readMetadata (Json.Value.object (path 127)).render)) = _
      rw [Embedding.ofBytes_bytes, score, readMetadata_path]
      rfl
    have found : search [Row.of entry] vector ⟨1, .ofFloat32 0.3⟩ = .ok [hit []] := by
      rw [search, List.mapM_cons, List.mapM_nil, read]
      exact congrArg Except.ok (ranked [])
    have upserted : (store.respond (.upsert (capital 127))).run (some []) =
        (.ok (.written 1), some [Row.of entry]) := by
      rw [Store.respond, Action.run_bind, run_upsert]
      rfl
    rw [Store.run_serve_cons, upserted, Store.run_serve_cons, Store.respond, Action.run_bind,
      run_search, found]
    rfl
  · have found : Memory.search [(pointId entry.text, entry)] vector ⟨1, .ofFloat32 0.3⟩ =
        [hit (path 127)] := by
      show Hit.rank _ [Hit.mk _ _ (Embedding.cosine vector vector) _] = _
      rw [score]
      exact ranked (path 127)
    have upserted : (Memory.store.respond (.upsert (capital 127))).run [] =
        (.ok (.written 1), [(pointId entry.text, entry)]) := by
      rw [Store.respond, Action.run_bind, Memory.run_upsert]
      rfl
    rw [Store.run_serve_cons, upserted, Store.run_serve_cons, Store.respond, Action.run_bind,
      Memory.run_search, found]
    rfl

end Knowledge.Table

end ClaimAudit
