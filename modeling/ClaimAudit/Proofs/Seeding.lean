import ClaimAudit.Knowledge.Seed
import ClaimAudit.Proofs.TiedHits

/-! Loading documents into a knowledge base in memory.

Documents go in together or not at all. Each is found afterwards as its last occurrence in the
list has it, and what else the knowledge base holds stays as it is. What a batch does to the
points is read off the map that they hold, so repeated texts, older points and the order of the
batch need no cases of their own.
-/

set_option autoImplicit false

namespace ClaimAudit

namespace Knowledge

namespace Catalog

variable {catalog other : Catalog} {entries : List Entry} {text : String}

theorem lookup_writeAll_congr
    (same : text ∈ entries.map (·.text) ∨ catalog.lookup text = other.lookup text) :
    (catalog.writeAll entries).lookup text = (other.writeAll entries).lookup text := by
  induction entries generalizing catalog other with
  | nil => exact same.resolve_left List.not_mem_nil
  | cons entry rest ih =>
    refine @ih (catalog.write entry) (other.write entry) ?_
    by_cases written : text = entry.text
    · right
      rw [write, write, written, Finmap.lookup_insert, Finmap.lookup_insert]
    · rw [write, write, Finmap.lookup_insert_of_ne _ written, Finmap.lookup_insert_of_ne _ written]
      rwa [List.map_cons, List.mem_cons, or_iff_right written] at same

theorem writeAll_writeAll :
    (catalog.writeAll entries).writeAll entries = catalog.writeAll entries := by
  refine Finmap.ext_lookup fun text => ?_
  by_cases written : text ∈ entries.map (·.text)
  · exact lookup_writeAll_congr (.inl written)
  · exact lookup_writeAll_of_notMem written

end Catalog

namespace Memory

variable {points others : Points} {catalog : Catalog} {known : Set String} {entries : List Entry}
  {entry : Entry}

theorem Holds.mem_iff (holds : Holds known points catalog) {p : Uuid × Entry}
    (own : p.1 = pointId p.2.text) :
    p ∈ points ↔ catalog.lookup p.2.text = some (p.2.vector, p.2.metadata) := by
  rw [Finmap.lookup_eq_some_iff, ← holds.items, Multiset.mem_coe, List.mem_map]
  refine ⟨fun member => ⟨p, member, rfl⟩, fun ⟨q, member, same⟩ => ?_⟩
  obtain ⟨id, text, vector, metadata⟩ := p
  obtain ⟨other, entry⟩ := q
  cases same
  rwa [show (id, _) = (other, entry) from Prod.ext (own.trans (holds.ids _ member).symm) rfl]

theorem Holds.keys_eq (holds : Holds known points catalog) :
    catalog.keys = (points.map (·.2.text)).toFinset := by
  ext text
  rw [Finmap.mem_keys, Finmap.mem_iff, List.mem_toFinset, List.mem_map]
  constructor
  · rintro ⟨⟨vector, metadata⟩, found⟩
    exact ⟨(pointId text, ⟨text, vector, metadata⟩), (holds.mem_iff rfl).mpr found, rfl⟩
  · rintro ⟨p, member, rfl⟩
    exact ⟨_, (holds.mem_iff (holds.ids p member)).mp member⟩

theorem Sound.exists_holds (sound : Sound points) (among : ∀ p ∈ points, p.2.text ∈ known) :
    ∃ catalog, Holds known points catalog := by
  have distinct : ((points.map item : List Item) : Multiset Item).NodupKeys := by
    rw [Multiset.coe_nodupKeys, List.NodupKeys, List.keys, List.map_map]
    exact sound.texts
  exact ⟨⟨_, distinct⟩, rfl, sound.ids, among⟩

theorem Holds.eq_of_id (holds : Holds known points catalog) (holds' : Holds known others catalog)
    (injective : Set.InjOn pointId known) {p q : Uuid × Entry} (member : p ∈ points)
    (member' : q ∈ others) (same : p.1 = q.1) : p = q := by
  have own := holds.ids p member
  have own' := holds'.ids q member'
  have text : p.2.text = q.2.text :=
    injective (holds.known p member) (holds'.known q member') (own.symm.trans (same.trans own'))
  have found := (holds.mem_iff own).mp member
  rw [text, (holds'.mem_iff own').mp member'] at found
  obtain ⟨id, entry⟩ := p
  obtain ⟨other, entry'⟩ := q
  cases entry
  cases entry'
  cases same
  cases text
  cases found
  rfl

theorem Holds.eq_of_ids (holds : Holds known points catalog) (holds' : Holds known others catalog)
    (injective : Set.InjOn pointId known) (same : points.map (·.1) = others.map (·.1)) :
    points = others := by
  refine List.ext_getElem (by simpa using congrArg List.length same) fun i bound bound' => ?_
  have ids : points[i].1 = others[i].1 := by
    have place := congrArg (·[i]?) same
    simpa [bound, bound'] using place
  exact holds.eq_of_id holds' injective (List.getElem_mem bound) (List.getElem_mem bound') ids

theorem map_fst_putAll (stored : ∀ entry ∈ entries, pointId entry.text ∈ points.map (·.1)) :
    (putAll entries points).map (·.1) = points.map (·.1) := by
  induction entries generalizing points with
  | nil => rfl
  | cons entry rest ih =>
    obtain ⟨first, others⟩ := List.forall_mem_cons.mp stored
    have kept : (put (pointId entry.text) entry points).map (·.1) = points.map (·.1) :=
      (map_key_put fun _ _ => rfl).trans (if_pos first)
    refine (ih ?_).trans kept
    rwa [kept]

theorem Holds.putAll_putAll (holds : Holds known points catalog)
    (injective : Set.InjOn pointId known) (new : ∀ entry ∈ entries, entry.text ∈ known) :
    Memory.putAll entries (Memory.putAll entries points) = Memory.putAll entries points := by
  have once := holds.putAll injective new
  have twice := once.putAll injective new
  rw [Catalog.writeAll_writeAll] at twice
  refine twice.eq_of_ids once injective (map_fst_putAll fun entry member => ?_)
  have stored : entry.text ∈ (catalog.writeAll entries).keys := by
    rw [Catalog.keys_writeAll]
    exact Finset.mem_union_right _ (List.mem_toFinset.mpr (List.mem_map_of_mem member))
  rw [once.keys_eq, List.mem_toFinset, List.mem_map] at stored
  obtain ⟨p, own, text⟩ := stored
  exact List.mem_map.mpr ⟨p, own, (once.ids p own).trans (congrArg pointId text)⟩

end Memory

namespace SeedDocument

def batch (docs : List SeedDocument) (vectors : List Embedding) : Batch :=
  ⟨docs.map (·.text), vectors, docs.map metadata⟩

variable {docs : List SeedDocument} {vectors : List Embedding}

theorem problem?_batch_of_eq (same : vectors.length = docs.length) :
    (batch docs vectors).problem? = none := by
  simp [Batch.problem?, batch, same]

theorem problem?_batch_of_ne (differ : vectors.length ≠ docs.length) :
    (batch docs vectors).problem? = some (.vectorCount docs.length vectors.length) := by
  simp [Batch.problem?, batch, differ.symm]

theorem text_of_mem_joined (same : vectors.length = docs.length) {entry : Entry}
    (member : entry ∈ (batch docs vectors).joined) : ∃ doc ∈ docs, doc.text = entry.text := by
  have texts : (batch docs vectors).joined.map (·.text) = docs.map (·.text) :=
    Batch.texts_joined (problem?_batch_of_eq same)
  exact List.mem_map.mp (texts ▸ List.mem_map_of_mem member)

end SeedDocument

/-- What loading documents with these vectors makes of a knowledge base: each text is stored as
its last occurrence has it, everything else is as it was, and only texts that were not there
before take room. -/
structure Seeded (docs : List SeedDocument) (vectors : List Embedding)
    (before after : Memory.Points) : Prop where
  sound : Memory.Sound after
  stored : ∀ i doc vector, docs[i]? = some doc → vectors[i]? = some vector →
    doc.text ∉ (docs.drop (i + 1)).map (·.text) → (pointId doc.text, ⟨doc.text, vector,
      [("category", .string (doc.category.getD "general")),
        ("source", .string (doc.source.getD "unknown"))]⟩) ∈ after
  others : ∀ p, p.2.text ∉ docs.map (·.text) → (p ∈ after ↔ p ∈ before)
  grown : after.length = before.length +
    ((docs.map (·.text)).toFinset \ (before.map (·.2.text)).toFinset).card

section Seed

variable {τ : Type} {embedder : Embedder τ} {docs : List SeedDocument} {t u : τ}
  {points : Memory.Points} {vectors : List Embedding}

/-- Loading documents into a knowledge base in memory, with an embedder of its own state. -/
def seedMemory (embedder : Embedder τ) (docs : List SeedDocument) :
    Action (τ × Memory.Points) Nat :=
  seed (embedder.within .first) (Memory.store.within .second) docs

theorem seed_nil {σ : Type} (embedder : Embedder σ) (store : Store σ) :
    seed embedder store [] = pure 0 := rfl

theorem run_seedMemory_nil : (seedMemory embedder []).run (t, points) = (.ok 0, t, points) := rfl

theorem run_seedMemory (filled : docs ≠ []) :
    (seedMemory embedder docs).run (t, points) =
      match (embedder.embed (docs.map (·.text))).run t with
      | (.error error, u) => (.error error, u, points)
      | (.ok vectors, u) =>
        match (SeedDocument.batch docs vectors).problem? with
        | some problem => (.error problem.error, u, points)
        | none => (.ok docs.length, u,
            Memory.putAll (SeedDocument.batch docs vectors).joined points) := by
  have inhabited : docs.isEmpty = false := by simpa using filled
  have ready : ((Memory.store.within .second).ensure : Action (τ × Memory.Points) Unit).run
      (t, points) = (.ok (), t, points) := rfl
  simp only [seedMemory, seed, inhabited, Bool.false_eq_true, if_false, Action.run_bind, ready,
    Embedder.within, Part.run_act, Part.first]
  cases (embedder.embed (docs.map (·.text))).run t with
  | mk outcome u =>
    cases outcome with
    | error error => rfl
    | ok vectors =>
      simp only [Store.within, Part.run_act, Part.second]
      rw [← SeedDocument.batch, Memory.run_upsert]
      cases (SeedDocument.batch docs vectors).problem? with
      | some problem => rfl
      | none => simp [SeedDocument.batch]

theorem run_seedMemory_of_eq (filled : docs ≠ []) (same : vectors.length = docs.length)
    (embedded : (embedder.embed (docs.map (·.text))).run t = (.ok vectors, u)) :
    (seedMemory embedder docs).run (t, points) =
      (.ok docs.length, u, Memory.putAll (SeedDocument.batch docs vectors).joined points) := by
  simp only [run_seedMemory filled, embedded, SeedDocument.problem?_batch_of_eq same]

theorem run_seedMemory_of_ne (filled : docs ≠ []) (differ : vectors.length ≠ docs.length)
    (embedded : (embedder.embed (docs.map (·.text))).run t = (.ok vectors, u)) :
    (seedMemory embedder docs).run (t, points) =
      (.error (Batch.Problem.vectorCount docs.length vectors.length).error, u, points) := by
  simp only [run_seedMemory filled, embedded, SeedDocument.problem?_batch_of_ne differ]

theorem run_seedMemory_of_error {error : Error} (filled : docs ≠ [])
    (refused : (embedder.embed (docs.map (·.text))).run t = (.error error, u)) :
    (seedMemory embedder docs).run (t, points) = (.error error, u, points) := by
  simp only [run_seedMemory filled, refused]

theorem seedMemory_all_or_nothing (embedder : Embedder τ) (docs : List SeedDocument) (t : τ)
    (points : Memory.Points) :
    ((seedMemory embedder docs).run (t, points)).1 = .ok docs.length ∨
      ∃ error u, (seedMemory embedder docs).run (t, points) = (.error error, u, points) := by
  rcases eq_or_ne docs [] with rfl | filled
  · exact .inl (congrArg Prod.fst run_seedMemory_nil)
  rcases embedded : (embedder.embed (docs.map (·.text))).run t with ⟨error | vectors, u⟩
  · exact .inr ⟨_, _, run_seedMemory_of_error filled embedded⟩
  · by_cases same : vectors.length = docs.length
    · exact .inl (congrArg Prod.fst (run_seedMemory_of_eq filled same embedded))
    · exact .inr ⟨_, _, run_seedMemory_of_ne filled same embedded⟩

variable {known : Set String}

theorem seeded_putAll (sound : Memory.Sound points) (injective : Set.InjOn pointId known)
    (new : ∀ doc ∈ docs, doc.text ∈ known) (old : ∀ p ∈ points, p.2.text ∈ known)
    (same : vectors.length = docs.length) :
    Seeded docs vectors points (Memory.putAll (SeedDocument.batch docs vectors).joined points) := by
  have shaped := SeedDocument.problem?_batch_of_eq same
  have texts : (SeedDocument.batch docs vectors).joined.map (·.text) = docs.map (·.text) :=
    Batch.texts_joined shaped
  -- All that is said of the points is read off the map, before and after.
  obtain ⟨catalog, holds⟩ := sound.exists_holds old
  have after := holds.putAll injective fun entry member => by
    obtain ⟨doc, own, text⟩ := SeedDocument.text_of_mem_joined same member
    exact text ▸ new doc own
  obtain ⟨last, untouched⟩ := @lookup_after catalog _ shaped
  rw [Catalog.after, if_pos shaped] at last untouched
  refine ⟨sound.putAll _, ?_, ?_, ?_⟩
  · intro i doc vector first second later
    have place : (docs.map (·.text))[i]? = some doc.text := by rw [List.getElem?_map, first]; rfl
    have noted : (SeedDocument.batch docs vectors).metadata[i]?.getD [] = doc.metadata := by
      rw [SeedDocument.batch, List.getElem?_map, first]
      rfl
    rw [List.map_drop] at later
    have found := last i doc.text vector place second later
    rw [noted] at found
    exact (after.mem_iff rfl).mpr found
  · intro p absent
    by_cases own : p.1 = pointId p.2.text
    · rw [after.mem_iff own, holds.mem_iff own, untouched _ absent]
    · exact iff_of_false (fun member => own (after.ids p member))
        fun member => own (holds.ids p member)
  · have keys : (catalog.writeAll (SeedDocument.batch docs vectors).joined).keys = _ :=
      Catalog.keys_writeAll
    have before : points.length = catalog.keys.card := Catalog.length_eq_card holds.items
    rw [Catalog.length_eq_card after.items, keys, texts, before, holds.keys_eq, Finset.union_comm,
      ← Finset.card_sdiff_add_card, Nat.add_comm]

theorem reseeded_putAll (sound : Memory.Sound points) (injective : Set.InjOn pointId known)
    (new : ∀ doc ∈ docs, doc.text ∈ known) (old : ∀ p ∈ points, p.2.text ∈ known)
    (same : vectors.length = docs.length) :
    let left := Memory.putAll (SeedDocument.batch docs vectors).joined points
    Memory.putAll (SeedDocument.batch docs vectors).joined left = left := by
  obtain ⟨catalog, holds⟩ := sound.exists_holds old
  refine holds.putAll_putAll injective fun entry member => ?_
  obtain ⟨doc, own, text⟩ := SeedDocument.text_of_mem_joined same member
  exact text ▸ new doc own

/-- Documents are loaded together or not at all. Where the embedder fails, or returns another
number of vectors, the knowledge base stays as it was; otherwise each text is stored as its last
occurrence has it and nothing else changes, and loading the same again changes nothing at all.
Without documents neither the embedder nor the knowledge base is asked. -/
theorem seeds_all_or_nothing (embedder : Embedder τ) (docs : List SeedDocument) (t : τ)
    (points : Memory.Points) (sound : Memory.Sound points)
    (injective : Set.InjOn pointId
      {text | text ∈ docs.map (·.text) ∨ text ∈ points.map (·.2.text)}) :
    let outcome := ((seedMemory embedder docs).run (t, points)).1
    let left := ((seedMemory embedder docs).run (t, points)).2.2
    (∀ count, outcome = .ok count → count = docs.length) ∧
    (∀ error, outcome = .error error → left = points) ∧
    (docs ≠ [] → ∀ error u, (embedder.embed (docs.map (·.text))).run t = (.error error, u) →
      outcome = .error error) ∧
    (docs ≠ [] → ∀ vectors u, (embedder.embed (docs.map (·.text))).run t = (.ok vectors, u) →
      (vectors.length ≠ docs.length →
        outcome = .error (Batch.Problem.vectorCount docs.length vectors.length).error) ∧
      (vectors.length = docs.length →
        outcome = .ok docs.length ∧ Seeded docs vectors points left ∧
        ∀ t' u', (embedder.embed (docs.map (·.text))).run t' = (.ok vectors, u') →
          (seedMemory embedder docs).run (t', left) = (.ok docs.length, u', left))) ∧
    ∀ (σ : Type) (embedder : Embedder σ) (store : Store σ), seed embedder store [] = pure 0 := by
  intro outcome left
  refine ⟨fun count done => ?_, fun error failed => ?_, fun filled error u refused => ?_,
    fun filled vectors u embedded => ⟨fun differ => ?_, fun same => ?_⟩, fun _ => seed_nil⟩
  · obtain whole | ⟨error, u, failed⟩ := seedMemory_all_or_nothing embedder docs t points
    · exact Except.ok.inj (done.symm.trans whole)
    · exact nomatch done.symm.trans (congrArg Prod.fst failed)
  · obtain whole | ⟨error, u, kept⟩ := seedMemory_all_or_nothing embedder docs t points
    · exact nomatch failed.symm.trans whole
    · exact congrArg (·.2.2) kept
  · exact congrArg Prod.fst (run_seedMemory_of_error filled refused)
  · exact congrArg Prod.fst (run_seedMemory_of_ne filled differ embedded)
  · have run : (seedMemory embedder docs).run (t, points) = _ :=
      run_seedMemory_of_eq filled same embedded
    have kept : left = Memory.putAll (SeedDocument.batch docs vectors).joined points :=
      congrArg (·.2.2) run
    have new : ∀ doc ∈ docs, doc.text ∈
        {text | text ∈ docs.map (·.text) ∨ text ∈ points.map (·.2.text)} :=
      fun doc member => .inl (List.mem_map_of_mem member)
    have old : ∀ p ∈ points, p.2.text ∈
        {text | text ∈ docs.map (·.text) ∨ text ∈ points.map (·.2.text)} :=
      fun p member => .inr (List.mem_map_of_mem member)
    refine ⟨congrArg Prod.fst run, kept ▸ seeded_putAll sound injective new old same,
      fun t' u' again => ?_⟩
    rw [run_seedMemory_of_eq filled same again, kept,
      reseeded_putAll sound injective new old same]

/-- One text is stored already and stands twice among the documents, one is new, and one is only
stored. -/
theorem seeds_all_or_nothing_repeated_text :
    let points := Memory.putAll [⟨"a", [⟨8⟩], []⟩, ⟨"c", [⟨9⟩], []⟩] []
    let docs : List SeedDocument :=
      [⟨"a", none, none⟩, ⟨"b", none, some "atlas"⟩, ⟨"a", some "history", none⟩]
    let vectors : List Embedding := [[⟨1⟩], [⟨2⟩], [⟨3⟩]]
    let embedder : Embedder Unit := .ofFunction 1 fun _ => .ok vectors
    let left := ((seedMemory embedder docs).run ((), points)).2.2
    Memory.Sound points ∧
      Set.InjOn pointId {text | text ∈ docs.map (·.text) ∨ text ∈ points.map (·.2.text)} ∧
      ((seedMemory embedder docs).run ((), points)).1 = .ok 3 ∧
      Seeded docs vectors points left ∧
      (seedMemory embedder docs).run ((), left) = (.ok 3, (), left) := by
  intro points docs vectors embedder left
  have sound : Memory.Sound points := Memory.sound_nil.putAll _
  have first : pointId "a" ≠ pointId "b" := by decide +kernel
  have second : pointId "a" ≠ pointId "c" := by decide +kernel
  have third : pointId "b" ≠ pointId "c" := by decide +kernel
  have stored : points.map (·.2.text) = ["a", "c"] := by
    simp [points, Memory.putAll, Memory.put, Knowledge.put, second]
  have injective : Set.InjOn pointId
      {text | text ∈ docs.map (·.text) ∨ text ∈ points.map (·.2.text)} := by
    rw [stored]
    intro x hx y hy same
    simp only [Set.mem_ofPred_eq, docs, List.map_cons, List.map_nil, List.mem_cons,
      List.not_mem_nil, or_false] at hx hy
    grind
  have filled : docs ≠ [] := List.cons_ne_nil _ _
  have embedded (t : Unit) : (embedder.embed (docs.map (·.text))).run t = (.ok vectors, ()) := rfl
  obtain ⟨_, _, _, complete, _⟩ := seeds_all_or_nothing embedder docs () points sound injective
  obtain ⟨done, seeded, again⟩ := (complete filled vectors () (embedded ())).2 rfl
  exact ⟨sound, injective, done, seeded, again () () (embedded ())⟩

end Seed

end Knowledge

end ClaimAudit
