import ClaimAudit.Window
import Mathlib.Data.List.Perm.Basic
import Mathlib.Data.List.Perm.Subperm

/-! Windows under every order of answers.

A running window answers the call that is due first. Here any call in flight may be
answered next, at any moment and with anything. Whatever the order, the positions of
the items sent are those in flight and those answered, each once; so the bound on the
calls in flight holds throughout, and a window without calls in flight has an answer
to every item, in the order of the items. A run with delays is one of these orders.
-/

set_option autoImplicit false

namespace ClaimAudit.Window

variable {α β ρ σ : Type}

/-- The windows that arise when calls in flight are answered in some order. The log
lists the answered calls with what came back, in the order in which it came. -/
inductive Reachable (width : Nat) (delay : α → Nat) (read : α → ρ → β) (items : List α) :
    List (Call α × ρ) → Window α β → Prop where
  | start (clock : Nat) :
    Reachable width delay read items [] ((Window.of items).fill width clock delay)
  | answer {log : List (Call α × ρ)} {w : Window α β} (call : Call α) (reply : ρ) (clock : Nat)
      (reached : Reachable width delay read items log w) (flying : call ∈ w.inFlight) :
    Reachable width delay read items (log ++ [(call, reply)])
      ((w.answer call.position (read call.item reply)).fill width clock delay)

def positioned (items : List α) : List (Nat × α) :=
  items.zipIdx.map fun (item, position) => (position, item)

@[simp] theorem getElem?_positioned (items : List α) (i : Nat) :
    (positioned items)[i]? = items[i]?.map (i, ·) := by
  simp [positioned, List.getElem?_zipIdx, Function.comp_def]

@[simp] theorem length_positioned (items : List α) : (positioned items).length = items.length := by
  simp [positioned]

/-- How a window, the log of its answers and the number of items sent fit together. -/
structure Accounts (read : α → ρ → β) (items : List α) (sent : Nat) (log : List (Call α × ρ))
    (w : Window α β) : Prop where
  sent_le : sent ≤ items.length
  waiting : w.waiting = (positioned items).drop sent
  length_slots : w.slots.length = items.length
  /-- Every item sent is in flight or answered, and not twice. -/
  positions : (w.inFlight.map (·.position) ++ log.map (·.1.position)).Perm (List.range sent)
  flying : ∀ call ∈ w.inFlight, items[call.position]? = some call.item
  answered : ∀ entry ∈ log, items[entry.1.position]? = some entry.1.item ∧
    w.slots[entry.1.position]? = some (some (read entry.1.item entry.2))
  /-- Only answers fill slots. -/
  filled : ∀ i, (w.slots[i]?.join).isSome = true → i ∈ log.map (·.1.position)

theorem le_length_takeWhile_iff {slots : List (Option β)} {n : Nat} :
    n ≤ (slots.takeWhile Option.isSome).length ↔ ∀ i < n, (slots[i]?.join).isSome = true := by
  induction slots generalizing n with
  | nil =>
    constructor
    · intro none i below
      simp only [List.takeWhile_nil, List.length_nil] at none
      omega
    · intro filled
      cases n with
      | zero => exact Nat.le_refl 0
      | succ n => simpa using filled 0 (Nat.succ_pos n)
  | cons slot slots ih =>
    cases n with
    | zero => simp
    | succ n =>
      cases slot with
      | none =>
        constructor
        · intro passed
          simp at passed
        · intro filled
          have first := filled 0 (Nat.succ_pos n)
          simp at first
      | some b =>
        simp only [List.takeWhile_cons, Option.isSome_some, if_true, List.length_cons,
          Nat.succ_le_succ_iff, ih]
        constructor
        · intro filled i below
          cases i with
          | zero => simp
          | succ i => simpa using filled i (Nat.lt_of_succ_lt_succ below)
        · intro filled i below
          simpa using filled (i + 1) (Nat.succ_lt_succ below)

theorem le_passed_iff {w : Window α β} {n : Nat} :
    n ≤ w.passed ↔ ∀ i < n, (w.slots[i]?.join).isSome = true :=
  le_length_takeWhile_iff

theorem isSome_slot_answer {w : Window α β} {position i : Nat} {result : β}
    (filled : (w.slots[i]?.join).isSome = true) :
    (((w.answer position result).slots[i]?).join).isSome = true := by
  simp only [answer, List.getElem?_set]
  split
  · subst_vars
    split
    · rfl
    · rename_i outside
      simp [List.getElem?_eq_none (Nat.le_of_not_lt outside)] at filled
  · exact filled

theorem passed_le_passed_answer (w : Window α β) (position : Nat) (result : β) :
    w.passed ≤ (w.answer position result).passed :=
  le_passed_iff.mpr fun i before =>
    isSome_slot_answer (le_passed_iff.mp (Nat.le_refl w.passed) i before)

theorem drop_positioned (items : List α) (sent : Nat) :
    (positioned items).drop sent =
      ((items.drop sent).zipIdx sent).map fun (item, position) => (position, item) := by
  apply List.ext_getElem?
  intro i
  simp [List.getElem?_zipIdx, Function.comp_def]

theorem takeWhile_zipIdx (items : List α) (offset bound : Nat) :
    ((items.zipIdx offset).map fun (item, position) => (position, item)).takeWhile
        (fun (position, _) => position < bound) =
      ((items.zipIdx offset).map fun (item, position) => (position, item)).take
        (bound - offset) := by
  induction items generalizing offset with
  | nil => simp
  | cons item items ih =>
    by_cases inside : offset < bound
    · have more : bound - offset = (bound - (offset + 1)) + 1 := by omega
      simp [inside, more, ih]
    · have none : bound - offset = 0 := by omega
      simp [inside, none]

def outgoing (items : List α) (sent bound : Nat) : List (Nat × α) :=
  ((positioned items).drop sent).take (bound - sent)

theorem takeWhile_waiting (items : List α) (sent bound : Nat) :
    ((positioned items).drop sent).takeWhile (fun (position, _) => position < bound) =
      outgoing items sent bound := by
  rw [outgoing, drop_positioned, takeWhile_zipIdx]

theorem length_outgoing {items : List α} {sent bound : Nat} (within : sent ≤ bound)
    (sent_le : sent ≤ items.length) :
    sent + (outgoing items sent bound).length = min items.length bound := by
  simp only [outgoing, List.length_take, List.length_drop, length_positioned]
  omega

theorem fst_outgoing (items : List α) (sent bound : Nat) :
    (outgoing items sent bound).map Prod.fst =
      List.range' sent (outgoing items sent bound).length := by
  apply List.ext_getElem
  · rw [List.length_map, List.length_range']
  · intro i _ _
    simp [outgoing, positioned]

theorem mem_outgoing {items : List α} {sent bound position : Nat} {item : α}
    (member : (position, item) ∈ outgoing items sent bound) : items[position]? = some item := by
  have among := List.mem_of_mem_drop (List.mem_of_mem_take member)
  obtain ⟨i, found⟩ := List.mem_iff_getElem?.mp among
  simp only [getElem?_positioned, Option.map_eq_some_iff, Prod.mk.injEq] at found
  obtain ⟨_, here, rfl, rfl⟩ := found
  exact here

section Accounts

variable {read : α → ρ → β} {items : List α} {sent : Nat} {log : List (Call α × ρ)}
  {w : Window α β}

theorem Accounts.of (read : α → ρ → β) (items : List α) :
    Accounts read items 0 [] (Window.of items) where
  sent_le := Nat.zero_le _
  waiting := rfl
  length_slots := by simp [Window.of]
  positions := by simp [Window.of]
  flying _ member := by cases member
  answered _ member := by cases member
  filled i full := by
    simp only [Window.of, List.getElem?_map] at full
    cases found : items[i]? <;> simp [found] at full

theorem fill_eq (accounts : Accounts read items sent log w) (width clock : Nat)
    (delay : α → Nat) :
    w.fill width clock delay =
      { w with
        waiting := (positioned items).drop
          (sent + (outgoing items sent (w.passed + width)).length)
        inFlight := w.inFlight ++ (outgoing items sent (w.passed + width)).map
          fun (position, item) => ⟨position, item, clock + delay item⟩ } := by
  have gone : w.waiting.takeWhile (fun (position, _) => position < w.passed + width) =
      outgoing items sent (w.passed + width) := by
    rw [accounts.waiting, takeWhile_waiting]
  simp only [Window.fill, gone]
  rw [accounts.waiting, List.drop_drop]

/-- Sending keeps the accounts and leaves no item behind that the bound allows. -/
theorem Accounts.fill (accounts : Accounts read items sent log w) (width clock : Nat)
    (delay : α → Nat) (within : sent ≤ w.passed + width) :
    Accounts read items (min items.length (w.passed + width)) log
      (w.fill width clock delay) := by
  rw [fill_eq accounts, ← length_outgoing within accounts.sent_le]
  refine ⟨?_, rfl, accounts.length_slots, ?_, ?_, accounts.answered, accounts.filled⟩
  · rw [length_outgoing within accounts.sent_le]
    exact Nat.min_le_left _ _
  · rw [List.map_append, List.map_map]
    change ((w.inFlight.map (·.position) ++ (outgoing items sent _).map Prod.fst) ++ _).Perm _
    rw [fst_outgoing, List.append_assoc]
    refine (List.perm_append_comm.append_left _).trans ?_
    rw [← List.append_assoc, List.range_eq_range', ← List.range'_append_1, Nat.zero_add,
      ← List.range_eq_range']
    exact accounts.positions.append_right _
  · intro call member
    rcases List.mem_append.mp member with before | new
    · exact accounts.flying call before
    · obtain ⟨⟨position, item⟩, out, rfl⟩ := List.mem_map.mp new
      exact mem_outgoing out

theorem Accounts.nodup_positions (accounts : Accounts read items sent log w) :
    (w.inFlight.map (·.position) ++ log.map (·.1.position)).Nodup :=
  accounts.positions.nodup_iff.mpr List.nodup_range

theorem Accounts.lt_sent (accounts : Accounts read items sent log w) {call : Call α}
    (flying : call ∈ w.inFlight) : call.position < sent := by
  apply List.mem_range.mp
  apply accounts.positions.mem_iff.mp
  exact List.mem_append_left _ (List.mem_map.mpr ⟨call, flying, rfl⟩)

theorem positions_answer {calls : List (Call α)} {call : Call α}
    (distinct : (calls.map (·.position)).Nodup) (flying : call ∈ calls) :
    (call.position :: (calls.filter fun other => other.position ≠ call.position).map
      (·.position)).Perm (calls.map (·.position)) := by
  induction calls with
  | nil => cases flying
  | cons first rest ih =>
    simp only [List.map_cons, List.nodup_cons] at distinct
    rcases List.mem_cons.mp flying with rfl | later
    · have others : rest.filter (fun other => other.position ≠ call.position) = rest := by
        apply List.filter_eq_self.mpr
        intro other member
        have differ : other.position ≠ call.position := fun same =>
          distinct.1 (List.mem_map.mpr ⟨other, member, same⟩)
        simpa using differ
      simp only [List.filter_cons, ne_eq, not_true_eq_false, decide_false, Bool.false_eq_true,
        if_false, List.map_cons]
      rw [others]
    · have differ : first.position ≠ call.position := fun same =>
        distinct.1 (List.mem_map.mpr ⟨call, later, same.symm⟩)
      simp only [List.filter_cons, differ, ne_eq, not_false_eq_true, decide_true, if_true,
        List.map_cons]
      exact (List.Perm.swap _ _ _).trans ((ih distinct.2 later).cons _)

theorem Accounts.answer (accounts : Accounts read items sent log w) {call : Call α}
    (flying : call ∈ w.inFlight) (reply : ρ) :
    Accounts read items sent (log ++ [(call, reply)])
      (w.answer call.position (read call.item reply)) where
  sent_le := accounts.sent_le
  waiting := accounts.waiting
  length_slots := by simp [Window.answer, accounts.length_slots]
  positions := by
    -- The position of the call leaves those in flight and joins the answered ones.
    have distinct := (List.nodup_append.mp accounts.nodup_positions).1
    refine List.Perm.trans ?_ accounts.positions
    simp only [Window.answer, List.map_append, List.map_cons, List.map_nil]
    rw [← List.append_assoc]
    refine List.perm_append_comm.trans ?_
    rw [List.singleton_append, ← List.cons_append]
    exact (positions_answer distinct flying).append_right _
  flying other member := accounts.flying other (List.mem_filter.mp member).1
  answered entry member := by
    rcases List.mem_append.mp member with before | new
    · obtain ⟨item, slot⟩ := accounts.answered entry before
      refine ⟨item, ?_⟩
      -- An answered call is no longer in flight, so its slot is not written again.
      have differ : call.position ≠ entry.1.position :=
        (List.nodup_append.mp accounts.nodup_positions).2.2
          _ (List.mem_map.mpr ⟨call, flying, rfl⟩) _ (List.mem_map.mpr ⟨entry, before, rfl⟩)
      simp only [Window.answer, List.getElem?_set_ne differ, slot]
    · rw [List.mem_singleton] at new
      subst new
      have inside : call.position < w.slots.length := by
        rw [accounts.length_slots]
        exact Nat.lt_of_lt_of_le (accounts.lt_sent flying) accounts.sent_le
      exact ⟨accounts.flying call flying, by
        simp only [Window.answer, List.getElem?_set_self inside]⟩
  filled i full := by
    simp only [List.map_append, List.map_cons, List.map_nil, List.mem_append,
      List.mem_singleton]
    by_cases here : call.position = i
    · exact .inr here.symm
    · left
      apply accounts.filled
      simpa only [Window.answer, List.getElem?_set_ne here] using full

/-- What has been passed on was answered, so the bound leaves no more in flight. -/
theorem Accounts.inFlight_le (accounts : Accounts read items sent log w) {width : Nat}
    (within : sent ≤ w.passed + width) : w.inFlight.length ≤ width := by
  have passed : w.passed ≤ log.length := by
    have answered : List.range w.passed ⊆ log.map (·.1.position) := fun i before =>
      accounts.filled i (le_passed_iff.mp (Nat.le_refl _) i (List.mem_range.mp before))
    simpa using (List.subperm_of_subset List.nodup_range answered).length_le
  have both : w.inFlight.length + log.length = sent := by
    simpa using accounts.positions.length_eq
  omega

theorem Accounts.sent_all (accounts : Accounts read items sent log w) {width : Nat}
    (positive : 0 < width) (full : sent = min items.length (w.passed + width))
    (landed : w.inFlight = []) : sent = items.length := by
  -- Everything sent is answered, so it is passed on, and then the bound would allow more.
  have answered : ∀ i < sent, (w.slots[i]?.join).isSome = true := by
    intro i below
    have logged : i ∈ log.map (·.1.position) := by
      simpa [landed] using accounts.positions.mem_iff.mpr (List.mem_range.mpr below)
    obtain ⟨entry, member, rfl⟩ := List.mem_map.mp logged
    simp [(accounts.answered entry member).2]
  have passed : sent ≤ w.passed := le_passed_iff.mpr answered
  omega

end Accounts

theorem exists_perm_of_perm_map {γ δ : Type} {f : γ → δ} {sorted : List δ} {log : List γ}
    (same : sorted.Perm (log.map f)) : ∃ calls : List γ, calls.Perm log ∧ calls.map f = sorted := by
  have pairs : List.Forall₂ (fun d c => d = f c) (log.map f) log :=
    List.forall₂_map_left_iff.mpr (List.forall₂_same.mpr fun _ _ => rfl)
  obtain ⟨calls, matched, permuted⟩ := List.perm_comp_forall₂ same pairs
  refine ⟨calls, permuted, ?_⟩
  have equal : List.Forall₂ (· = ·) sorted (calls.map f) := List.forall₂_map_right_iff.mpr matched
  rw [List.forall₂_eq_eq_eq] at equal
  exact equal.symm

section Reachable

variable {width : Nat} {delay : α → Nat} {read : α → ρ → β} {items : List α}
  {log : List (Call α × ρ)} {w : Window α β}

-- The number of items sent is not free: a window always sends all that its bound allows,
-- which is why the bound below is reached and never passed.
theorem Reachable.accounts (reached : Reachable width delay read items log w) :
    Accounts read items (min items.length (w.passed + width)) log w := by
  induction reached with
  | start clock => exact (Accounts.of read items).fill width clock delay (Nat.zero_le _)
  | @answer log w call reply clock reached flying ih =>
    have more := passed_le_passed_answer w call.position (read call.item reply)
    exact (ih.answer flying reply).fill width clock delay (by omega)

/-- At no time are more calls without an answer than the bound allows. -/
theorem Reachable.inFlight_le_width (reached : Reachable width delay read items log w) :
    w.inFlight.length ≤ width :=
  reached.accounts.inFlight_le (Nat.min_le_right _ _)

/-- No item is sent twice: the calls in flight and the answered ones differ in position. -/
theorem Reachable.nodup_positions (reached : Reachable width delay read items log w) :
    (w.inFlight.map (·.position) ++ log.map (·.1.position)).Nodup :=
  reached.accounts.nodup_positions

theorem Reachable.length_log_le (reached : Reachable width delay read items log w) :
    w.inFlight.length + log.length ≤ items.length := by
  have both := reached.accounts.positions.length_eq
  simp only [List.length_append, List.length_map, List.length_range] at both
  omega

/-- When no call is left in flight, every item has its own answer, at its own place. -/
theorem Reachable.results_eq (reached : Reachable width delay read items log w)
    (positive : 0 < width) (landed : w.inFlight = []) :
    ∃ calls : List (Call α × ρ), calls.Perm log ∧
      calls.map (·.1.position) = List.range items.length ∧ calls.map (·.1.item) = items ∧
      w.results = calls.map fun (call, reply) => read call.item reply := by
  have accounts := reached.accounts
  rw [accounts.sent_all positive rfl landed] at accounts
  -- All positions were answered, so the log can be put into their order.
  have positions : (List.range items.length).Perm (log.map (·.1.position)) := by
    simpa [landed] using accounts.positions.symm
  obtain ⟨calls, permuted, sorted⟩ := exists_perm_of_perm_map positions
  have length : calls.length = items.length := by simpa using congrArg List.length sorted
  have place (i : Nat) (inside : i < calls.length) : calls[i].1.position = i := by
    have here : (calls.map (·.1.position))[i]? = some i := by
      rw [sorted, List.getElem?_range (by omega)]
    simpa [inside] using here
  have own (i : Nat) (inside : i < calls.length) :
      items[i]? = some calls[i].1.item ∧
        w.slots[i]? = some (some (read calls[i].1.item calls[i].2)) := by
    have entry := accounts.answered calls[i] (permuted.mem_iff.mp (List.getElem_mem inside))
    rwa [place i inside] at entry
  refine ⟨calls, permuted, sorted, ?_, ?_⟩
  · apply List.ext_getElem?
    intro i
    by_cases inside : i < calls.length
    · simp [inside, (own i inside).1]
    · have outside : items.length ≤ i := by
        rw [← length]
        exact Nat.le_of_not_lt inside
      rw [List.getElem?_eq_none outside, List.getElem?_eq_none (by simpa using inside)]
  · have slots : w.slots = calls.map fun (call, reply) => some (read call.item reply) := by
      apply List.ext_getElem?
      intro i
      by_cases inside : i < calls.length
      · simp [inside, (own i inside).2]
      · have outside : w.slots.length ≤ i := by
          rw [accounts.length_slots, ← length]
          exact Nat.le_of_not_lt inside
        rw [List.getElem?_eq_none outside, List.getElem?_eq_none (by simpa using inside)]
    simp [results, slots, List.filterMap_map]

end Reachable

section Run

variable (width : Nat) (delay : α → Nat) (items : List α) (read : α → ρ → β)
  (reply : α → Session σ β) (Kept : List (Call α × ρ) → Progress σ → Prop)

theorem earliest?_mem {calls : List (Call α)} {call : Call α}
    (first : earliest? calls = some call) : call ∈ calls := by
  induction calls generalizing call with
  | nil => cases first
  | cons head rest ih =>
    unfold earliest? at first
    split at first
    · rename_i other found
      split at first
      · cases first
        exact List.mem_cons_of_mem _ (ih found)
      · cases first
        exact List.mem_cons_self
    · cases first
      exact List.mem_cons_self

theorem eq_nil_of_earliest? {calls : List (Call α)} (none_ : earliest? calls = none) :
    calls = [] := by
  cases calls with
  | nil => rfl
  | cons head rest =>
    unfold earliest? at none_
    split at none_
    · split at none_ <;> cases none_
    · cases none_

-- The induction is on the rounds left. Each round logs one more answer, so rounds for
-- all items suffice; `Kept` is what the replies maintain of the progress.
theorem rounds_reachable
    (waits : ∀ log p clock, Kept log p → Kept log { p with clock })
    (replies : ∀ log p call, Kept log p → ∃ x q,
      (reply call.item).resume none p = (.ok (read call.item x), q) ∧
        Kept (log ++ [(call, x)]) q)
    (n : Nat) {log : List (Call α × ρ)} {w : Window α β} {p : Progress σ}
    (reached : Reachable width delay read items log w)
    (enough : items.length ≤ n + log.length) (kept : Kept log p) :
    ∃ (finalLog : List (Call α × ρ)) (final : Window α β) (q : Progress σ),
      (rounds width delay reply n w).resume none p = (.ok final.results, q) ∧
        Reachable width delay read items finalLog final ∧ final.inFlight = [] ∧
        Kept finalLog q := by
  induction n generalizing log w p with
  | zero =>
    have landed : w.inFlight = [] := by
      have := reached.length_log_le
      exact List.eq_nil_of_length_eq_zero (by omega)
    exact ⟨log, w, p, rfl, reached, landed, kept⟩
  | succ n ih =>
    cases first : earliest? w.inFlight with
    | none =>
      refine ⟨log, w, p, ?_, reached, eq_nil_of_earliest? first, kept⟩
      simp [rounds, first]
    | some call =>
      obtain ⟨x, q, answered, still⟩ :=
        replies log { p with clock := max p.clock call.due } call (waits _ _ _ kept)
      have next := reached.answer call x q.clock (earliest?_mem first)
      have fewer : items.length ≤ n + (log ++ [(call, x)]).length := by
        rw [List.length_append, List.length_singleton]
        omega
      obtain ⟨finalLog, final, r, rest, done⟩ := ih next fewer still
      refine ⟨finalLog, final, r, ?_, done⟩
      simp only [rounds, first, Session.resume_bind, Session.resume_waitUntil, answered,
        Session.resume_clock, rest]

theorem run_reachable
    (waits : ∀ log p clock, Kept log p → Kept log { p with clock })
    (replies : ∀ log p call, Kept log p → ∃ x q,
      (reply call.item).resume none p = (.ok (read call.item x), q) ∧
        Kept (log ++ [(call, x)]) q)
    {p : Progress σ} (kept : Kept [] p) :
    ∃ (log : List (Call α × ρ)) (final : Window α β) (q : Progress σ),
      (run width delay reply items).resume none p = (.ok final.results, q) ∧
        Reachable width delay read items log final ∧ final.inFlight = [] ∧ Kept log q := by
  simp only [run, Session.resume_bind, Session.resume_clock]
  exact rounds_reachable width delay items read reply Kept waits replies items.length
    (.start p.clock) (Nat.le_refl _) kept

end Run

end ClaimAudit.Window
