import ClaimAudit.Proofs.Documents

/-!
What a look-up returns, in whatever order its searches finish.

The searches of a look-up are under way together. Any of them may finish next, and it acts on
what the searches before it have left. Once all have succeeded, their results are put in the
order of the vectors, not of the answers; as soon as one has failed the look-up may fail with
it. Searching for one vector after another is one of the orders.
-/

set_option autoImplicit false

namespace ClaimAudit

inductive Lookup where
  | embed (texts : List String)
  | search (vector : Embedding) (limits : Knowledge.Limits)
  deriving DecidableEq

/-- A program with several courses: from a state, with the calls that are made, to an outcome
and another state. -/
def Courses (σ α : Type) : Type := σ → List Lookup → Except Error α → σ → Prop

namespace Courses

variable {σ α β : Type}

inductive Then (first : Courses σ α) (next : α → Courses σ β) :
    σ → List Lookup → Except Error β → σ → Prop where
  | halted {s t : σ} {calls : List Lookup} {error : Error}
      (failed : first s calls (.error error) t) : Then first next s calls (.error error) t
  | onward {s t u : σ} {before after : List Lookup} {a : α} {outcome : Except Error β}
      (done : first s before (.ok a) t) (rest : next a t after outcome u) :
      Then first next s (before ++ after) outcome u

instance : Monad (Courses σ) where
  pure a := fun s calls outcome t => calls = [] ∧ outcome = .ok a ∧ t = s
  bind := Then

def Covers (courses : Courses σ α) (action : Action σ α) : Prop :=
  ∀ s, ∃ calls, courses s calls (action.run s).1 (action.run s).2

/-- All courses from a state make the same calls and come to the same result and state, or all
fail. -/
def Settled (courses : Courses σ α) : Prop :=
  ∀ ⦃s calls outcome t⦄, courses s calls outcome t →
    ∀ ⦃calls' outcome' t'⦄, courses s calls' outcome' t' →
      calls = calls' ∧ outcome.toOption = outcome'.toOption ∧ t = t'

variable {first : Courses σ α} {next : α → Courses σ β}

theorem covers_pure (a : α) : (pure a : Courses σ α).Covers (pure a) := fun _ => ⟨[], rfl, rfl, rfl⟩

theorem Covers.bind {action : Action σ α} {further : α → Action σ β} (covers : first.Covers action)
    (onward : ∀ a, (next a).Covers (further a)) : (first >>= next).Covers (action >>= further) := by
  intro s
  obtain ⟨before, done⟩ := covers s
  rw [Action.run_bind]
  cases ran : action.run s with
  | mk outcome t =>
    rw [ran] at done
    cases outcome with
    | error error => exact ⟨before, .halted done⟩
    | ok a =>
      obtain ⟨after, rest⟩ := onward a t
      exact ⟨before ++ after, .onward done rest⟩

theorem settled_pure (a : α) : (pure a : Courses σ α).Settled := by
  rintro s calls outcome t ⟨rfl, rfl, rfl⟩ calls' outcome' t' ⟨rfl, rfl, rfl⟩
  exact ⟨rfl, rfl, rfl⟩

theorem Settled.bind (settled : first.Settled) (onward : ∀ a, (next a).Settled) :
    (first >>= next).Settled := by
  intro s calls outcome t one calls' outcome' t' two
  cases one with
  | halted failed =>
    cases two with
    | halted failed' =>
      obtain ⟨rfl, _, rfl⟩ := settled failed failed'
      exact ⟨rfl, rfl, rfl⟩
    | onward done' _ => cases (settled failed done').2.1
  | onward done rest =>
    cases two with
    | halted failed' => cases (settled done failed').2.1
    | onward done' rest' =>
      obtain ⟨rfl, same, rfl⟩ := settled done done'
      cases same
      obtain ⟨rfl, same, rfl⟩ := onward _ rest rest'
      exact ⟨rfl, same, rfl⟩

end Courses

section Together

variable {σ α β : Type}

/-- How actions that are under way together go on: any that has not finished may finish next.
The log has the results so far, each with the position of its action. -/
inductive Ended (actions : List (Action σ α)) (s : σ) :
    List (Nat × Except Error α) → σ → Prop where
  | begun : Ended actions s [] s
  | finish {log : List (Nat × Except Error α)} {t u : σ} {i : Nat} {result : Except Error α}
      (earlier : Ended actions s log t) (bound : i < actions.length)
      (pending : i ∉ log.map Prod.fst) (ran : actions[i].run t = (result, u)) :
      Ended actions s (log ++ [(i, result)]) u

/-- What a number of actions come to together: all results in the order of the actions, or the
error of one that failed, whatever the others did. -/
inductive Joined (count : Nat) (log : List (Nat × Except Error α)) :
    Except Error (List α) → Prop where
  | all {results : List α} (counted : results.length = count)
      (each : ∀ i (bound : i < results.length), (i, .ok results[i]) ∈ log) :
      Joined count log (.ok results)
  | failed {i : Nat} {error : Error} (one : (i, .error error) ∈ log) :
      Joined count log (.error error)

variable {actions : List (Action σ α)} {log : List (Nat × Except Error α)} {s t u : σ}

theorem Ended.nodup (ended : Ended actions s log t) : (log.map Prod.fst).Nodup := by
  induction ended with
  | begun => exact List.nodup_nil
  | finish _ _ pending _ ih =>
    rw [List.map_append]
    exact ih.append (List.nodup_singleton _) (List.disjoint_singleton.mpr pending)

theorem Ended.bounded (ended : Ended actions s log t) :
    ∀ entry ∈ log, entry.1 < actions.length := by
  induction ended with
  | begun => exact List.forall_mem_nil _
  | finish _ bound _ _ ih =>
    exact List.forall_mem_append.mpr ⟨ih, List.forall_mem_singleton.mpr bound⟩

theorem Ended.perm_of_joined (ended : Ended actions s log t) {results : List α}
    (joined : Joined actions.length log (.ok results)) :
    log.Perm (results.zipIdx.map fun (a, i) => (i, .ok a)) := by
  cases joined with
  | all counted each =>
    have distinct : (results.zipIdx.map fun (a, i) => (i, (.ok a : Except Error α))).Nodup := by
      refine List.Nodup.of_map Prod.fst ?_
      rw [List.map_map]
      show (results.zipIdx.map Prod.snd).Nodup
      rw [List.zipIdx_map_snd]
      exact List.nodup_range'
    refine (List.perm_ext_iff_of_nodup (ended.nodup.of_map _) distinct).mpr ?_
    rintro ⟨i, result⟩
    rw [List.mem_map]
    constructor
    · intro member
      have bound : i < results.length := counted ▸ ended.bounded _ member
      -- Two entries of one position are one entry.
      have same := List.inj_on_of_nodup_map ended.nodup member (each i bound) rfl
      exact ⟨(results[i], i), List.mk_mem_zipIdx_iff_getElem?.mpr
        (List.getElem?_eq_getElem bound), same.symm⟩
    · rintro ⟨⟨a, j⟩, member, same⟩
      obtain ⟨bound, rfl⟩ :=
        List.getElem?_eq_some_iff.mp (List.mk_mem_zipIdx_iff_getElem?.mp member)
      exact same ▸ each j bound

theorem Ended.length_le (ended : Ended actions s log t) : log.length ≤ actions.length := by
  have within : log.map Prod.fst ⊆ List.range actions.length := by
    intro i member
    obtain ⟨entry, own, rfl⟩ := List.mem_map.mp member
    exact List.mem_range.mpr (ended.bounded entry own)
  simpa using (ended.nodup.subperm within).length_le

theorem exists_joined {count : Nat} (all : ∀ i < count, i ∈ log.map Prod.fst) :
    ∃ outcome, Joined count log outcome := by
  by_cases failing : ∃ i error, (i, .error error) ∈ log
  · obtain ⟨i, error, one⟩ := failing
    exact ⟨_, .failed one⟩
  · have each : ∀ i : Fin count, ∃ a, (i.val, .ok a) ∈ log := by
      intro i
      obtain ⟨⟨_, result⟩, member, rfl⟩ := List.mem_map.mp (all i.val i.isLt)
      cases result with
      | ok a => exact ⟨a, member⟩
      | error error => exact absurd ⟨_, error, member⟩ failing
    choose found member using each
    refine ⟨_, .all (List.length_ofFn (f := found)) fun i bound => ?_⟩
    rw [List.getElem_ofFn]
    exact member ⟨i, List.length_ofFn (f := found) ▸ bound⟩

theorem Ended.completes {actions : List (Action σ α)} {log : List (Nat × Except Error α)} {s t : σ}
    (ended : Ended actions s log t) :
    ∃ more outcome u, Ended actions s (log ++ more) u ∧
      Joined actions.length (log ++ more) outcome := by
  by_cases all : ∀ i < actions.length, i ∈ log.map Prod.fst
  · obtain ⟨outcome, joined⟩ := exists_joined all
    rw [← List.append_nil log] at ended joined
    exact ⟨[], outcome, t, ended, joined⟩
  · push Not at all
    obtain ⟨i, bound, pending⟩ := all
    have further := ended.finish bound pending (Prod.eta (actions[i].run t)).symm
    have fewer := further.length_le
    obtain ⟨more, outcome, u, ended, joined⟩ := further.completes
    rw [List.append_assoc] at ended joined
    exact ⟨_, outcome, u, ended, joined⟩
termination_by actions.length - log.length
decreasing_by
  rw [List.length_append, List.length_singleton] at fewer ⊢
  omega

theorem Ended.append (ended : Ended actions s log t) (others : List (Action σ α)) :
    Ended (actions ++ others) s log t := by
  induction ended with
  | begun => exact .begun
  | finish _ bound pending ran ih =>
    refine ih.finish (by rw [List.length_append]; exact Nat.lt_add_right _ bound) pending ?_
    rwa [List.getElem_append_left bound]

theorem run_mapM_concat (action : β → Action σ α) (front : List β) (item : β) (s : σ) :
    ((front ++ [item]).mapM action).run s =
      match (front.mapM action).run s with
      | (.error error, t) => (.error error, t)
      | (.ok results, t) =>
        ((fun a => results ++ [a]) <$> ((action item).run t).1, ((action item).run t).2) := by
  rw [List.mapM_append, Action.run_bind]
  cases (front.mapM action).run s with
  | mk outcome t =>
    cases outcome with
    | error error => rfl
    | ok results =>
      simp only [List.mapM_cons, List.mapM_nil, Action.run_bind]
      cases (action item).run t with
      | mk result u => cases result <;> rfl

/-- One after another is an order in which actions may finish. -/
theorem ended_mapM (action : β → Action σ α) (items : List β) (s : σ) :
    ∃ log, Ended (items.map action) s log ((items.mapM action).run s).2 ∧
      Joined items.length log ((items.mapM action).run s).1 := by
  -- The log grows at its end, and so the items are taken from theirs.
  induction items using List.reverseRecOn with
  | nil => exact ⟨[], .begun, .all rfl nofun⟩
  | append_singleton front item ih =>
    obtain ⟨log, ended, joined⟩ := ih
    have pending : front.length ∉ log.map Prod.fst := by
      intro member
      obtain ⟨entry, own, same⟩ := List.mem_map.mp member
      have earlier := ended.bounded entry own
      rw [List.length_map] at earlier
      exact earlier.ne same
    have further := ended.append [action item]
    rw [run_mapM_concat, List.map_append, List.map_singleton]
    cases before : (front.mapM action).run s with
    | mk outcome t =>
      rw [before] at further joined
      cases joined with
      | failed one =>
        -- The last action is never started.
        exact ⟨log, further, .failed one⟩
      | @all results counted each =>
        have bound : front.length < (front.map action ++ [action item]).length := by simp
        have ran : ((front.map action ++ [action item])[front.length]).run t =
            (action item).run t := by simp
        refine ⟨_, further.finish bound pending (ran.trans (Prod.eta _).symm), ?_⟩
        dsimp only
        cases ((action item).run t).1 with
        | error error => exact .failed (List.mem_append_right _ List.mem_cons_self)
        | ok a =>
          refine .all (by simp [counted]) fun i inside => ?_
          rw [List.getElem_append]
          split
          · exact List.mem_append_left _ (each i ‹_›)
          · have last : i = front.length := by
              simp only [List.length_append, List.length_singleton] at inside
              omega
            subst last
            exact List.mem_append_right _ (by simp)

section Reading

variable {others : List (Nat × Except Error α)}

/-- Actions that only read have the same results whenever they finish. -/
theorem Ended.result_eq (ended : Ended actions s log t)
    (reads : ∀ action ∈ actions, ∀ u, (action.run u).2 = u) :
    t = s ∧ ∀ (i : Nat) (bound : i < actions.length) (result : Except Error α),
      (i, result) ∈ log → result = (actions[i].run s).1 := by
  induction ended with
  | begun => exact ⟨rfl, fun _ _ _ => nofun⟩
  | finish _ bound _ ran ih =>
    obtain ⟨rfl, same⟩ := ih
    refine ⟨(congrArg Prod.snd ran).symm.trans (reads _ (List.getElem_mem bound) _),
      fun i inside result member => ?_⟩
    rcases List.mem_append.mp member with earlier | last
    · exact same i inside result earlier
    · cases List.mem_singleton.mp last
      rw [ran]

theorem Joined.eq_ok_of_reads (reads : ∀ action ∈ actions, ∀ u, (action.run u).2 = u)
    (ended : Ended actions s log t) (ended' : Ended actions s others u) {results : List α}
    {outcome : Except Error (List α)} (joined : Joined actions.length log (.ok results))
    (joined' : Joined actions.length others outcome) : outcome = .ok results := by
  have known := (ended.result_eq reads).2
  have known' := (ended'.result_eq reads).2
  cases joined with
  | all counted each =>
    cases joined' with
    | all counted' each' =>
      refine congrArg _ (List.ext_getElem (counted'.trans counted.symm) fun i bound' bound => ?_)
      have inside := counted ▸ bound
      exact Except.ok.inj ((known' i inside _ (each' i bound')).trans
        (known i inside _ (each i bound)).symm)
    | @failed i error one =>
      have inside := ended'.bounded _ one
      have clash := (known i inside _ (each i (counted ▸ inside))).trans
        (known' i inside _ one).symm
      cases clash

theorem Joined.toOption_eq (reads : ∀ action ∈ actions, ∀ u, (action.run u).2 = u)
    (ended : Ended actions s log t) (ended' : Ended actions s others u)
    {outcome outcome' : Except Error (List α)} (joined : Joined actions.length log outcome)
    (joined' : Joined actions.length others outcome') : outcome.toOption = outcome'.toOption := by
  cases outcome with
  | ok results => rw [joined.eq_ok_of_reads reads ended ended' joined']
  | error error =>
    cases outcome' with
    | ok results => cases joined'.eq_ok_of_reads reads ended' ended joined
    | error error => rfl

end Reading

end Together

/-- The texts of a list, each where it is seen first. -/
structure Evidence.Deduplicates (texts kept : List String) : Prop where
  distinct : kept.Nodup
  complete : ∀ text, text ∈ kept ↔ text ∈ texts
  inOrder : kept.Pairwise fun x y => texts.idxOf x < texts.idxOf y

theorem Evidence.deduplicates_unique (texts : List String) :
    Deduplicates texts (unique texts) :=
  ⟨nodup_unique texts, fun _ => mem_unique, pairwise_unique texts⟩

namespace Retriever

variable {σ : Type} {r : Retriever σ} {texts : List String} {s t : σ} {calls : List Lookup}

def embedding (r : Retriever σ) (texts : List String) : Courses σ (List Embedding) :=
  fun s calls outcome t =>
    calls = [.embed texts] ∧ (r.embedder.embed texts).run s = (outcome, t)

/-- The searches of a look-up, one a vector, which are not waited for one by one. -/
def searching (r : Retriever σ) (vectors : List Embedding) :
    Courses σ (List (List Knowledge.Hit)) :=
  fun s calls outcome t => calls = vectors.map (.search · r.limits) ∧
    ∃ log, Ended (vectors.map (r.store.search · r.limits)) s log t ∧
      Joined vectors.length log outcome

def courses (r : Retriever σ) (userQuery : String) (claims : List Claim) :
    Courses σ (List String) :=
  gather r.embedding r.searching userQuery claims

/-- What a look-up of texts may come to. Without texts nothing is asked. Otherwise they are
embedded together and each vector is searched for. A failure of the embedding or of a search is
the failure of the look-up; without one, every search has found something and the texts found
are returned in the order of the vectors, each once. -/
inductive Retrieves (r : Retriever σ) (texts : List String) (s : σ) :
    List Lookup → Except Error (List String) → σ → Prop where
  | nothing (none : texts = []) : Retrieves r texts s [] (.ok []) s
  | unembedded {t : σ} {error : Error} (some : texts ≠ [])
      (failed : (r.embedder.embed texts).run s = (.error error, t)) :
      Retrieves r texts s [.embed texts] (.error error) t
  | unsearched {vectors : List Embedding} {t u : σ} {i : Nat} {error : Error}
      {log : List (Nat × Except Error (List Knowledge.Hit))} (some : texts ≠ [])
      (embedded : (r.embedder.embed texts).run s = (.ok vectors, t))
      (ended : Ended (vectors.map (r.store.search · r.limits)) t log u)
      (failed : (i, .error error) ∈ log) :
      Retrieves r texts s (.embed texts :: vectors.map (.search · r.limits)) (.error error) u
  | found {vectors : List Embedding} {t u : σ} {hits : List (List Knowledge.Hit)}
      {log : List (Nat × Except Error (List Knowledge.Hit))} {kept : List String}
      (some : texts ≠ []) (embedded : (r.embedder.embed texts).run s = (.ok vectors, t))
      (ended : Ended (vectors.map (r.store.search · r.limits)) t log u)
      (counted : hits.length = vectors.length)
      (answered : log.Perm (hits.zipIdx.map fun (found, i) => (i, .ok found)))
      (once : Evidence.Deduplicates (hits.flatten.map (·.text)) kept) :
      Retrieves r texts s (.embed texts :: vectors.map (.search · r.limits)) (.ok kept) u

theorem retrieves_of_courses {userQuery : String} {claims : List Claim}
    {outcome : Except Error (List String)} (course : r.courses userQuery claims s calls outcome t) :
    r.Retrieves (queries userQuery claims) s calls outcome t := by
  simp only [courses, gather, List.isEmpty_iff] at course
  split at course
  · rename_i none
    obtain ⟨rfl, rfl, rfl⟩ := course
    exact .nothing none
  · rename_i some
    cases course with
    | halted failed =>
      obtain ⟨rfl, failed⟩ := failed
      exact .unembedded some failed
    | onward done rest =>
      obtain ⟨rfl, embedded⟩ := done
      cases rest with
      | halted failed =>
        obtain ⟨rfl, log, ended, joined⟩ := failed
        cases joined with
        | failed one => exact .unsearched some embedded ended one
      | onward done rest =>
        obtain ⟨rfl, log, ended, joined⟩ := done
        obtain ⟨rfl, rfl, rfl⟩ := rest
        rw [List.append_nil]
        have perm := ended.perm_of_joined (List.length_map _ ▸ joined)
        cases joined with
        | all counted _ =>
          exact .found some embedded ended counted perm (Evidence.deduplicates_unique _)

theorem covers_courses (r : Retriever σ) (userQuery : String) (claims : List Claim) :
    (r.courses userQuery claims).Covers (r.evidence userQuery claims) := by
  simp only [courses, evidence, gather]
  split
  · exact Courses.covers_pure _
  · refine .bind (fun s => ⟨_, rfl, rfl⟩) fun vectors => ?_
    refine .bind (fun s => ?_) fun hits => Courses.covers_pure _
    exact ⟨_, rfl, ended_mapM _ vectors s⟩

theorem settled_courses (reads : ∀ vector s, ((r.store.search vector r.limits).run s).2 = s)
    (userQuery : String) (claims : List Claim) : (r.courses userQuery claims).Settled := by
  simp only [courses, gather]
  split
  · exact Courses.settled_pure _
  · refine .bind ?_ fun vectors => .bind ?_ fun hits => Courses.settled_pure _
    · rintro s calls outcome t ⟨rfl, ran⟩ calls' outcome' t' ⟨rfl, ran'⟩
      obtain ⟨rfl, rfl⟩ := Prod.mk.inj (ran.symm.trans ran')
      exact ⟨rfl, rfl, rfl⟩
    · rintro s calls outcome t ⟨rfl, log, ended, joined⟩ calls' outcome' t' ⟨rfl, log', ended', joined'⟩
      have still : ∀ action ∈ vectors.map (r.store.search · r.limits), ∀ u, (action.run u).2 = u := by
        rw [List.forall_mem_map]
        exact fun vector _ => reads vector
      rw [← List.length_map (r.store.search · r.limits)] at joined joined'
      exact ⟨rfl, Joined.toOption_eq still ended ended' joined joined',
        (ended.result_eq still).1.trans (ended'.result_eq still).1.symm⟩

/-- Whatever the order in which its searches finish, a look-up makes one embedding call with the
question, unless that is blank, and the claims, and one search for each vector; it returns the
texts found in the order of the vectors, each once, or fails with the error of a call that
failed; and without anything to look up it asks nothing. Its searches always come to an end, and
one after another is one of their orders. Where searches only read, all orders come to the same
texts or all fail. -/
theorem retrieves_in_any_order (r : Retriever σ) (userQuery : String) (claims : List Claim) (s : σ) :
    (∀ calls outcome t, r.courses userQuery claims s calls outcome t →
      r.Retrieves ((if Text.allBlank userQuery then [] else [userQuery]) ++ claims.map (·.text))
        s calls outcome t) ∧
    (∀ (vectors : List Embedding) log t u, Ended (vectors.map (r.store.search · r.limits)) t log u →
      ∃ more outcome v, Ended (vectors.map (r.store.search · r.limits)) t (log ++ more) v ∧
        Joined vectors.length (log ++ more) outcome) ∧
    (∃ calls, r.courses userQuery claims s calls ((r.evidence userQuery claims).run s).1
      ((r.evidence userQuery claims).run s).2) ∧
    ((∀ vector t, ((r.store.search vector r.limits).run t).2 = t) →
      ∀ calls outcome t, r.courses userQuery claims s calls outcome t →
        outcome.toOption = ((r.evidence userQuery claims).run s).1.toOption ∧
          t = ((r.evidence userQuery claims).run s).2) := by
  obtain ⟨calls, course⟩ := r.covers_courses userQuery claims s
  refine ⟨fun _ _ _ => retrieves_of_courses, fun vectors log t u ended => ?_, ⟨calls, course⟩,
    fun reads _ _ _ other => (settled_courses reads userQuery claims other course).2⟩
  have completes := ended.completes
  rwa [List.length_map] at completes

/-- The search for the claim finishes before that for the question, and both find one text. -/
theorem retrieves_in_any_order_claim_first :
    let hit (text : String) : Knowledge.Hit := ⟨text, text, .zero, []⟩
    let store : Knowledge.Store Unit :=
      { ensure := pure ()
        upsert := fun _ => pure 0
        search := fun vector _ => pure <|
          if vector.length = 1 then [hit "Rain is wet.", hit "Ice melts."]
          else [hit "Ice melts.", hit "Seas are wet."]
        count := pure 3
        healthy := pure true }
    let r : Retriever Unit := ⟨.ofTable [("Ice is water.", [.zero, .zero])] 1, store, {}⟩
    let calls : List Lookup := [.embed ["Is water wet?", "Ice is water."], .search [.zero] r.limits,
      .search [.zero, .zero] r.limits]
    let kept := ["Rain is wet.", "Ice melts.", "Seas are wet."]
    r.courses "Is water wet?" [⟨"Ice is water."⟩] () calls (.ok kept) () ∧
      r.Retrieves ["Is water wet?", "Ice is water."] () calls (.ok kept) () ∧
      (∀ vector t, ((r.store.search vector r.limits).run t).2 = t) ∧
      ((r.evidence "Is water wet?" [⟨"Ice is water."⟩]).run ()).1.toOption = some kept := by
  intro hit store r calls kept
  let first := [hit "Rain is wet.", hit "Ice melts."]
  let second := [hit "Ice melts.", hit "Seas are wet."]
  have ended : Ended ([[.zero], [.zero, .zero]].map (r.store.search · r.limits)) ()
      [(1, .ok second), (0, .ok first)] () :=
    (Ended.begun.finish (i := 1) (by decide) (by decide) rfl).finish (i := 0) (by decide)
      (by decide) rfl
  have joined : Joined 2 [(1, .ok second), (0, .ok first)] (.ok [first, second]) := .all rfl fun
    | 0, _ => List.mem_cons_of_mem _ List.mem_cons_self
    | 1, _ => List.mem_cons_self
  have course : r.courses "Is water wet?" [⟨"Ice is water."⟩] () calls (.ok kept) () := by
    have asked : queries "Is water wet?" [⟨"Ice is water."⟩] =
      ["Is water wet?", "Ice is water."] := by decide +kernel
    rw [courses, gather, asked]
    have searched : r.searching [[.zero], [.zero, .zero]] () _ (.ok [first, second]) () :=
      ⟨rfl, _, ended, joined⟩
    have embedded : r.embedding ["Is water wet?", "Ice is water."] () _
      (.ok [[.zero], [.zero, .zero]]) () := ⟨rfl, rfl⟩
    exact Courses.Then.onward embedded (Courses.Then.onward searched ⟨rfl, rfl, rfl⟩)
  have reads : ∀ vector t, ((r.store.search vector r.limits).run t).2 = t := fun _ _ => rfl
  obtain ⟨retrieves, _, _, agrees⟩ :=
    retrieves_in_any_order r "Is water wet?" [⟨"Ice is water."⟩] ()
  exact ⟨course, retrieves _ _ _ course, reads, (agrees reads _ _ _ course).1.symm⟩

end Retriever

end ClaimAudit
