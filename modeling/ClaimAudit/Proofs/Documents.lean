import ClaimAudit.Backend.Scripted
import ClaimAudit.Proofs.Findings
import ClaimAudit.Proofs.TimeLimit
import Mathlib.Data.List.Nodup

/-! The documents that claims are judged against.

Merging keeps the first of equal texts. So merging what was found before it is added to
the documents of the caller makes no difference to merging all at once. Every judgment of
an audit is asked for with the same documents: those of the caller, and behind them what
the look-up found, query by query.
-/

set_option autoImplicit false

namespace ClaimAudit

namespace Evidence

variable {text : String} (texts others : List String)

theorem mem_unique {texts : List String} : text ∈ unique texts ↔ text ∈ texts :=
  List.mem_eraseDups

-- `eraseDups` recurs on a filtered tail, so the recursion is on the length.
theorem unique_filter (p : String → Bool) (texts : List String) :
    unique (texts.filter p) = (unique texts).filter p := by
  match texts with
  | [] => rfl
  | text :: rest =>
    have ih := unique_filter p (rest.filter fun other => !other == text)
    simp only [unique] at ih ⊢
    rw [List.eraseDups_cons]
    by_cases kept : p text = true
    · rw [List.filter_cons_of_pos kept, List.filter_cons_of_pos kept, List.eraseDups_cons,
        List.filter_comm, ih]
    · rw [List.filter_cons_of_neg kept, List.filter_cons_of_neg kept, ← ih, List.filter_filter]
      congr 1
      refine List.filter_congr fun other _ => ?_
      by_cases same : other = text
      · simp [same, kept]
      · simp [same]
termination_by texts.length
decreasing_by exact Nat.lt_succ_of_le (List.length_filter_le _ _)

theorem unique_cons (text : String) :
    unique (text :: texts) = text :: (unique texts).filter (!· == text) := by
  rw [← unique_filter]
  exact List.eraseDups_cons

theorem nodup_unique : (unique texts).Nodup := by
  induction texts with
  | nil => exact List.nodup_nil
  | cons text rest ih =>
    rw [unique_cons]
    exact List.nodup_cons.mpr ⟨by simp, ih.filter _⟩

theorem unique_of_nodup {texts : List String} (distinct : texts.Nodup) :
    unique texts = texts := by
  induction texts with
  | nil => rfl
  | cons text rest ih =>
    obtain ⟨new, distinct⟩ := List.nodup_cons.mp distinct
    rw [unique_cons, ih distinct, List.filter_eq_self.mpr]
    intro other member
    have different : other ≠ text := fun same => new (same ▸ member)
    simp [different]

theorem unique_append :
    unique (texts ++ others) = unique texts ++ (unique others).filter (· ∉ texts) := by
  rw [← unique_filter, unique, List.eraseDups_append]
  simp only [unique, List.removeAll, List.elem_eq_mem, decide_not]

theorem unique_append_unique : unique (texts ++ unique others) = unique (texts ++ others) := by
  rw [unique_append, unique_append, unique_of_nodup (nodup_unique others)]

theorem pairwise_unique :
    (unique texts).Pairwise fun x y => texts.idxOf x < texts.idxOf y := by
  induction texts with
  | nil => exact .nil
  | cons text rest ih =>
    rw [unique_cons]
    have others : ∀ other ∈ (unique rest).filter (!· == text), text ≠ other := by
      intro other member
      rintro rfl
      simp at member
    refine List.pairwise_cons.mpr ⟨fun other member => ?_, ?_⟩
    · rw [List.idxOf_cons_self, List.idxOf_cons_ne _ (others other member)]
      exact Nat.succ_pos _
    · -- In the whole list the texts of the tail stand one place further on.
      refine (ih.filter _).imp_of_mem fun left right earlier => ?_
      rw [List.idxOf_cons_ne _ (others _ left), List.idxOf_cons_ne _ (others _ right)]
      exact Nat.succ_lt_succ earlier

/-- Two sources merged into one list of documents: no text twice, none lost and none added,
those of the first source before those of the second alone, each in the order in which it is
first seen. -/
structure Merged (own found merged : List String) : Prop where
  atOnce : merged = unique (own ++ found)
  stepwise : merged = unique (own ++ unique found)
  distinct : merged.Nodup
  complete : ∀ text, text ∈ merged ↔ text ∈ own ∨ text ∈ found
  ownFirst : merged = unique own ++ (unique found).filter (· ∉ own)
  inOrder : merged.Pairwise fun x y => (own ++ found).idxOf x < (own ++ found).idxOf y

theorem merged_unique (own found : List String) :
    Merged own found (unique (own ++ unique found)) where
  atOnce := unique_append_unique own found
  stepwise := rfl
  distinct := nodup_unique _
  complete text := by rw [unique_append_unique, mem_unique, List.mem_append]
  ownFirst := by rw [unique_append_unique, unique_append]
  inOrder := by
    rw [unique_append_unique]
    exact pairwise_unique _

end Evidence

theorem Verification.messages_request (config : Config) (evidence : List String) (claim : Claim) :
    ∃ before after, (request config evidence claim).messages =
      [⟨.user, before ++ Evidence.listing evidence ++ after⟩] := by
  refine ⟨"Check this claim against the context:\n\n<claim>\n" ++ claim.text ++
    "\n</claim>\n\n<context>\n", "\n</context>\n\nReturn only the JSON object.", ?_⟩
  rw [request]
  cases config.model <;> rfl

namespace Retriever

variable {σ : Type} {r : Retriever σ} {s t : σ} {hits : List (List Knowledge.Hit)}

inductive Searches (r : Retriever σ) :
    List Embedding → σ → List (List Knowledge.Hit) → σ → Prop where
  | nil (s : σ) : Searches r [] s [] s
  | cons {vector : Embedding} {vectors : List Embedding} {s t u : σ} {found : List Knowledge.Hit}
      {rest : List (List Knowledge.Hit)}
      (first : (r.store.search vector r.limits).run s = (.ok found, t))
      (onward : Searches r vectors t rest u) : Searches r (vector :: vectors) s (found :: rest) u

/-- What is found for queries. They are embedded together, and the vector of one after
another is searched for; without queries nothing is asked. -/
inductive Finds (r : Retriever σ) (queries : List String) (s : σ) :
    List (List Knowledge.Hit) → σ → Prop where
  | nothing (nil : queries = []) : Finds r queries s [] s
  | searched {vectors : List Embedding} {hits : List (List Knowledge.Hit)} {t u : σ}
      (cons : queries ≠ []) (embedded : (r.embedder.embed queries).run s = (.ok vectors, t))
      (searches : r.Searches vectors t hits u) : Finds r queries s hits u

theorem searches_of_run {vectors : List Embedding}
    (ran : (vectors.mapM (r.store.search · r.limits)).run s = (.ok hits, t)) :
    r.Searches vectors s hits t := by
  induction vectors generalizing s hits with
  | nil =>
    cases ran
    exact .nil _
  | cons vector vectors ih =>
    rw [List.mapM_cons] at ran
    obtain ⟨found, u, first, ran⟩ := Action.ok_of_run_bind ran
    obtain ⟨rest, v, onward, ran⟩ := Action.ok_of_run_bind ran
    cases ran
    exact .cons first (ih onward)

/-- A look-up that succeeds returns the texts of what was found, each once. -/
theorem finds_of_run {userQuery : String} {claims : List Claim} {retrieved : List String}
    (ran : (r.evidence userQuery claims).run s = (.ok retrieved, t)) :
    ∃ hits, r.Finds (queries userQuery claims) s hits t ∧
      retrieved = Evidence.unique (hits.flatten.map (·.text)) := by
  simp only [evidence, gather, List.isEmpty_iff] at ran
  split at ran
  · rename_i nil
    cases ran
    exact ⟨[], .nothing nil, rfl⟩
  · rename_i cons
    obtain ⟨vectors, u, embedded, ran⟩ := Action.ok_of_run_bind ran
    obtain ⟨hits, v, searched, ran⟩ := Action.ok_of_run_bind ran
    cases ran
    exact ⟨hits, .searched cons embedded (searches_of_run searched), rfl⟩

end Retriever

namespace Auditor

variable {σ : Type} {a : Auditor σ} {request : Request} {outside : σ}

/-- What is found for an audit. Without a retriever nothing is looked up. -/
inductive Found (a : Auditor σ) (queries : List String) (s : σ) :
    List (List Knowledge.Hit) → σ → Prop where
  | absent (none : a.retriever = none) : Found a queries s [] s
  | present {retriever : Retriever σ} {hits : List (List Knowledge.Hit)} {t : σ}
      (some : a.retriever = some retriever) (finds : retriever.Finds queries s hits t) :
      Found a queries s hits t

theorem Succeeds.found {completion : Completion} {retrieved : List String} {t : σ}
    (succeeds : a.Succeeds request outside completion retrieved t) :
    ∃ s hits, (a.client.complete (a.opening request)).run outside = (.ok completion, s) ∧
      a.Found (Retriever.queries request.userQuery (a.extracted request completion).claims)
        s hits t ∧
      retrieved = Evidence.unique (hits.flatten.map (·.text)) := by
  obtain ⟨s, answered, found⟩ := succeeds
  cases present : a.retriever with
  | none =>
    simp only [lookup, present] at found
    cases found
    exact ⟨_, [], answered, .absent present, rfl⟩
  | some retriever =>
    simp only [lookup, present] at found
    obtain ⟨hits, finds, rfl⟩ := Retriever.finds_of_run found
    exact ⟨s, hits, answered, .present present finds, rfl⟩

/-- Without a limit an audit that comes to judging is completed. -/
theorem completed_of_verify (judging : .verify ∈ (a.audit none request outside).2.entered) :
    ∃ findings, (a.audit none request outside).1 = .completed findings := by
  have observes := a.findings_observes request none outside
  rw [audit_eq] at judging ⊢
  obtain ⟨findings, r, ran⟩ | ⟨stage, error, r, ran, running, refused⟩ :=
    a.findings_start request outside
  · rw [ran]
    exact ⟨findings, rfl⟩
  · rw [ran] at observes judging
    have last : r.entered.getLast? = some stage := running ▸ observes.last
    exact absurd judging (Stage.verify_not_mem observes.inOrder last refused.stage_eq)

/-- When an audit comes to judging, under a limit or not, there is one list of documents
that it asks for every judgment with, which are all its calls but the first, and that a
completed report counts. It is merged from the documents of the caller and the texts of all
that was found for the question, unless that is blank, and for the claims, in their order. -/
theorem judged_against_merged_documents (a : Auditor σ) (limit : Option Nat) (request : Request)
    (outside : σ) (judging : .verify ∈ (a.audit limit request outside).2.entered) :
    ∃ completion s hits t documents,
      (a.client.complete (a.opening request)).run outside = (.ok completion, s) ∧
      a.Found ((if Text.allBlank request.userQuery then [] else [request.userQuery]) ++
        (a.extracted request completion).claims.map (·.text)) s hits t ∧
      Evidence.Merged request.contextDocs (hits.flatten.map (·.text)) documents ∧
      (∀ exchange ∈ (a.audit limit request outside).2.exchanges.tail,
        ∃ claim ∈ (a.extracted request completion).claims,
          exchange.request = Verification.request a.verification documents claim ∧
          ∃ before after, exchange.request.messages =
            [⟨.user, before ++ Evidence.listing documents ++ after⟩]) ∧
      ∀ findings, (a.audit limit request outside).1 = .completed findings →
        findings.evidenceCount = documents.length := by
  -- What is done under the limit is a part of the run without one, which is completed.
  have part := a.extends_audit limit request outside
  obtain ⟨findings, completed⟩ := completed_of_verify (part.entered.subset judging)
  have ending := audit_ends a request outside
  rw [completed] at ending
  obtain ⟨completion, _, log, calls, p, q, succeeds, asked, concludes, exchanges, _⟩ :=
    ending.succeeds
  obtain ⟨s, hits, answered, found, rfl⟩ := succeeds.found
  refine ⟨completion, s, hits, p.outside, _, answered, found,
    Evidence.merged_unique request.contextDocs _, fun exchange member => ?_,
    fun reported done => ?_⟩
  · rw [← List.drop_one] at member
    have later := (List.IsPrefix.drop part.exchanges 1).subset member
    rw [exchanges, List.drop_one, List.tail_cons] at later
    have requested : exchange.request ∈ calls.map (·.request) :=
      List.mem_map_of_mem (asked.permuted.mem_iff.mp later)
    rw [asked.requests] at requested
    obtain ⟨claim, own, same⟩ := List.mem_map.mp requested
    refine ⟨claim, own, same.symm, ?_⟩
    rw [← same]
    exact Verification.messages_request _ _ _
  · have same := (completed_of_limit done).symm.trans completed
    cases same
    rw [concludes]
    rfl

/-- The caller's second document is found again, and for both queries. -/
theorem judged_against_merged_documents_overlapping :
    let hit (text : String) : Knowledge.Hit := ⟨text, text, .zero, []⟩
    let store : Knowledge.Store Backend.Script.Tape :=
      { ensure := pure ()
        upsert := fun _ => pure 0
        search := fun _ _ => pure [hit "Ice is water.", hit "Rain is wet."]
        count := pure 2
        healthy := pure true }
    let a : Auditor Backend.Script.Tape :=
      { client := ({} : Backend.Script).client, retriever := some ⟨.ofTable [] 1, store, {}⟩ }
    let request : Request :=
      ⟨"one", "Is water wet?", "Water is wet.", ["Seas are wet.", "Rain is wet."]⟩
    let tape : Backend.Script.Tape := { replies := [.ok "Water is wet"] }
    .verify ∈ (a.audit none request tape).2.entered ∧
      ∀ exchange ∈ (a.audit none request tape).2.exchanges.tail, ∃ claim,
        exchange.request = Verification.request a.verification
          ["Seas are wet.", "Rain is wet.", "Ice is water."] claim := by
  intro hit store a request tape
  have judging : .verify ∈ (a.audit none request tape).2.entered := by decide +kernel
  refine ⟨judging, fun exchange member => ?_⟩
  obtain ⟨completion, s, hits, t, documents, answered, found, merged, asked, _⟩ :=
    judged_against_merged_documents a none request tape judging
  obtain ⟨claim, _, same, _⟩ := asked exchange member
  have texts : hits.flatten.map (·.text) =
      ["Ice is water.", "Rain is wet.", "Ice is water.", "Rain is wet."] := by
    cases answered
    rw [show (a.extracted request _).claims = [⟨"Water is wet."⟩] by decide +kernel] at found
    cases found with
    | absent none => cases none
    | present some finds =>
      cases some
      cases finds with
      | nothing nil => exact absurd nil (by decide +kernel)
      | searched cons embedded searches =>
        cases embedded
        rw [show (if Text.allBlank request.userQuery then [] else [request.userQuery]) =
          ["Is water wet?"] by decide +kernel] at searches
        cases searches with
        | cons first onward =>
          cases first
          cases onward with
          | cons second finished =>
            cases second
            cases finished
            rfl
  have list : documents = ["Seas are wet.", "Rain is wet.", "Ice is water."] := by
    rw [merged.atOnce, texts]
    decide +kernel
  exact ⟨claim, list ▸ same⟩

end Auditor

end ClaimAudit
