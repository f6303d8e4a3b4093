/-! Lists of which the items have keys. An item takes the place of the one with its key. -/

set_option autoImplicit false

namespace ClaimAudit.Knowledge

variable {α κ : Type} [DecidableEq κ] {key : α → κ} {update : α → α} {new a : α} {items : List α}

/-- Update the first item with the key of a new one, or add the new one at the end. -/
def put (key : α → κ) (update : α → α) (new : α) : List α → List α
  | [] => [new]
  | old :: rest => if key old = key new then update old :: rest else old :: put key update new rest

theorem map_key_put (kept : ∀ old, key old = key new → key (update old) = key new) :
    (put key update new items).map key =
      if key new ∈ items.map key then items.map key else items.map key ++ [key new] := by
  induction items with
  | nil => rfl
  | cons old rest ih =>
    by_cases same : key old = key new
    · simp [put, same, kept old same]
    · have others : key new ≠ key old := fun equal => same equal.symm
      rw [put, if_neg same, List.map_cons, ih]
      simp only [List.map_cons, List.mem_cons, others, false_or]
      split <;> rfl

theorem nodup_map_key_put (kept : ∀ old, key old = key new → key (update old) = key new)
    (distinct : (items.map key).Nodup) : ((put key update new items).map key).Nodup := by
  rw [map_key_put kept]
  split
  case isTrue => exact distinct
  case isFalse fresh =>
    rw [List.nodup_append]
    refine ⟨distinct, List.pairwise_singleton _ _, fun k known l added same => fresh ?_⟩
    rwa [← List.mem_singleton.mp added, ← same]

theorem mem_put (member : a ∈ put key update new items) :
    a = new ∨ a ∈ items ∨ ∃ old ∈ items, key old = key new ∧ a = update old := by
  induction items with
  | nil => exact .inl (List.mem_singleton.mp member)
  | cons old rest ih =>
    rw [put] at member
    split at member <;> rw [List.mem_cons] at member <;> grind

theorem mem_put_of_ne (member : a ∈ items) (apart : key a ≠ key new) :
    a ∈ put key update new items := by
  induction items with
  | nil => cases member
  | cons old rest ih =>
    rw [put]
    split
    case isTrue same =>
      rcases List.mem_cons.mp member with rfl | behind
      · exact absurd same apart
      · exact List.mem_cons_of_mem _ behind
    case isFalse =>
      rcases List.mem_cons.mp member with rfl | behind
      · exact List.mem_cons_self
      · exact List.mem_cons_of_mem _ (ih behind)

/-- An item that is put is there, if an update makes it of what it finds. -/
theorem mem_put_self (made : ∀ old ∈ items, key old = key new → update old = new) :
    new ∈ put key update new items := by
  induction items with
  | nil => exact List.mem_singleton_self new
  | cons old rest ih =>
    obtain ⟨first, others⟩ := List.forall_mem_cons.mp made
    rw [put]
    split
    case isTrue same => exact first same ▸ List.mem_cons_self
    case isFalse => exact List.mem_cons_of_mem _ (ih others)

end ClaimAudit.Knowledge
