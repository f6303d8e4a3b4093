import ClaimAudit.Proofs.ExplainedClaims
import ClaimAudit.Proofs.Stages

/-! What the report of an audit says about the calls that were made.

A completed report says of each claim what the answer to its own call says, and lists
every path of less quality that was taken. A failed one says which call failed.
-/

set_option autoImplicit false

namespace ClaimAudit

namespace Verification

theorem judged_of_ofReply {claim : Claim} {completion : Completion} {judgment : Judgment Float}
    (read : ofReply claim completion.content = .ok judgment) :
    judged claim (.ok completion) = judgment := by
  simp only [judged, read]

end Verification

namespace Auditor

variable {σ : Type} {a : Auditor σ} {request : Request} {outside : σ}

theorem Asked.entry {evidence : List String} {claims : List Claim} {p q : Progress σ}
    {log calls : List Exchange} (asked : a.Asked evidence claims p log calls q)
    {i : Nat} {claim : Claim} (found : claims[i]? = some claim) :
    ∃ reply, calls[i]? = some ⟨Verification.request a.verification evidence claim, reply⟩ ∧
      (verdicts claims calls)[i]? = some (Verification.judged claim reply) := by
  have same := congrArg (·[i]?) asked.requests
  simp only [List.getElem?_map, found, Option.map_some, Option.map_eq_some_iff] at same
  obtain ⟨call, called, wanted⟩ := same
  refine ⟨call.reply, ?_, ?_⟩
  · rw [called, ← wanted]
  · rw [verdicts, List.getElem?_zipWith, found, called]

theorem Refused.not_succeeds {stage : Stage} {error : Error} {exchanges : List Exchange}
    (refused : a.Refused request outside stage error exchanges) (completion : Completion)
    (retrieved : List String) (t : σ) : ¬ a.Succeeds request outside completion retrieved t := by
  rintro ⟨s, answered, found⟩
  cases refused with
  | decompose refused =>
    rw [refused] at answered
    cases answered
  | retrieve present opened refused =>
    rw [opened] at answered
    cases answered
    simp only [lookup, present] at found
    rw [refused] at found
    cases found

theorem Ending.succeeds {findings : Findings} {r : Progress σ}
    (ending : a.Ending request outside (.completed findings) r) :
    ∃ completion retrieved log calls p q,
      a.Succeeds request outside completion retrieved p.outside ∧
      a.Asked (documents request retrieved) (a.extracted request completion).claims
        p log calls q ∧
      findings = a.concluded request completion retrieved calls ∧
      r.exchanges = ⟨a.opening request, .ok completion⟩ :: log ∧ r.outside = q.outside := by
  cases ending with
  | @completed completion retrieved p q _ log calls informed asked outside_eq exchanges_eq =>
    refine ⟨completion, retrieved, log, calls, p, q, informed.succeeds, asked, rfl, ?_, outside_eq⟩
    rw [exchanges_eq, asked.talked.exchanges, informed.exchanges, List.singleton_append]

theorem isCompleted_audit_iff (a : Auditor σ) (request : Request) (outside : σ) :
    (a.audit none request outside).1.isCompleted = true ↔
      ∃ completion retrieved t, a.Succeeds request outside completion retrieved t := by
  have ending := audit_ends a request outside
  generalize a.audit none request outside = result at ending ⊢
  obtain ⟨report, r⟩ := result
  constructor
  · intro completed
    cases report with
    | completed findings =>
      obtain ⟨completion, retrieved, _, _, p, _, succeeds, _⟩ := ending.succeeds
      exact ⟨completion, retrieved, p.outside, succeeds⟩
    | failed failure => cases completed
  · rintro ⟨completion, retrieved, t, succeeds⟩
    cases ending with
    | completed => rfl
    | failed refused => exact absurd succeeds (refused.not_succeeds completion retrieved t)

/-- Findings that say of each claim what the answer to its own call says, and of the
answer under audit what follows from exactly these judgments. -/
structure Reflects (a : Auditor σ) (request : Request) (documents : List String)
    (claims : List Claim) (calls : List Exchange) (findings : Findings) : Prop where
  requestId : findings.requestId = request.requestId
  divided : findings.claims = claims
  called : calls.length = claims.length
  aligned : findings.judgments.length = claims.length
  judged : ∀ (i : Nat) (claim : Claim), claims[i]? = some claim → ∃ reply,
    calls[i]? = some ⟨Verification.request a.verification documents claim, reply⟩ ∧
    (∀ completion judgment, reply = .ok completion →
      Verification.ofReply claim completion.content = .ok judgment →
        findings.judgments[i]? = some judgment) ∧
    (Verification.Fails claim reply → findings.judgments[i]? = some (.unknown claim))
  faithfulness :
    findings.faithfulness = (Assessment.of a.scoring findings.judgments).faithfulness
  hallucination :
    findings.hallucination = (Assessment.of a.scoring findings.judgments).hallucination
  reasoningTrace :
    findings.reasoningTrace = (Assessment.of a.scoring findings.judgments).explanation

theorem Asked.reflects {completion : Completion} {retrieved : List String} {p q : Progress σ}
    {log calls : List Exchange}
    (asked : a.Asked (documents request retrieved) (a.extracted request completion).claims
      p log calls q) :
    a.Reflects request (documents request retrieved) (a.extracted request completion).claims
      calls (a.concluded request completion retrieved calls) where
  requestId := rfl
  divided := rfl
  called := asked.length_verdicts.1
  aligned := asked.length_verdicts.2
  judged i claim found := by
    obtain ⟨reply, called, entry⟩ := asked.entry found
    refine ⟨reply, called, fun content judgment answered read => ?_, fun fails => ?_⟩
    · rw [answered, Verification.judged_of_ofReply read] at entry
      exact entry
    · rw [Verification.judged_of_fails fails] at entry
      exact entry
  faithfulness := rfl
  hallucination := rfl
  reasoningTrace := rfl

/-- An audit is completed exactly when its first call and its look-up succeed; else its
failure is that of the call that failed, and never one of its own making. When a
completed audit judges one claim after another, it made one call more than there are
claims, in the order of the claims, and its findings reflect them. -/
theorem audit_in_sequence (a : Auditor σ) (request : Request) (outside : σ) :
    ((a.audit none request outside).1.isCompleted = true ↔
      ∃ completion retrieved t, a.Succeeds request outside completion retrieved t) ∧
    (∀ findings, a.verification.maxConcurrency ≤ 1 →
      (a.audit none request outside).1 = .completed findings →
      ∃ completion retrieved t calls,
        a.Succeeds request outside completion retrieved t ∧
        (a.audit none request outside).2.exchanges =
          ⟨a.opening request, .ok completion⟩ :: calls ∧
        a.client.conversation (calls.map (·.request)) t =
          (calls, (a.audit none request outside).2.outside) ∧
        (a.audit none request outside).2.exchanges.length = 1 + findings.claims.length ∧
        a.Reflects request (documents request retrieved)
          (a.extracted request completion).claims calls findings) ∧
    (∀ failure, (a.audit none request outside).1 = .failed failure →
      (∃ error s, (a.client.complete (a.opening request)).run outside = (.error error, s) ∧
        (a.audit none request outside).2.exchanges = [⟨a.opening request, .error error⟩] ∧
        failure = .ofError request.requestId .decompose error) ∨
      ∃ retriever completion s error t, a.retriever = some retriever ∧
        (a.client.complete (a.opening request)).run outside = (.ok completion, s) ∧
        (retriever.evidence request.userQuery (a.extracted request completion).claims).run s =
          (.error error, t) ∧
        (a.audit none request outside).2.exchanges = [⟨a.opening request, .ok completion⟩] ∧
        failure = .ofError request.requestId .retrieve error) := by
  refine ⟨isCompleted_audit_iff a request outside, ?_⟩
  have ending := audit_ends a request outside
  generalize a.audit none request outside = result at ending ⊢
  obtain ⟨report, r⟩ := result
  refine ⟨fun findings sequential completed => ?_, fun failure failed => ?_⟩
  · cases completed
    obtain ⟨completion, retrieved, log, calls, p, q, succeeds, asked, rfl, exchanges, settled⟩ :=
      ending.succeeds
    have inOrder : log = calls := asked.sequential sequential
    subst inOrder
    refine ⟨completion, retrieved, p.outside, log, succeeds, exchanges, ?_, ?_, asked.reflects⟩
    · rw [settled]
      exact asked.talked.conversation
    · rw [exchanges, List.length_cons, asked.reflects.called, asked.reflects.divided,
        Nat.add_comm]
  · cases failed
    cases ending with
    | failed refused =>
      -- Only calls refuse: the errors that stages could raise by themselves are gone.
      generalize r.exchanges = exchanges at refused ⊢
      cases refused with
      | decompose refused => exact .inl ⟨_, _, refused, rfl, rfl⟩
      | retrieve present answered refused =>
        exact .inr ⟨_, _, _, _, _, present, answered, refused, rfl, rfl⟩

/-- A script with one claim and no judgment of it. -/
theorem audit_in_sequence_one_claim :
    let a : Auditor Backend.Script.Tape := { client := ({} : Backend.Script).client }
    let request : Request := ⟨"one", "Is water wet?", "Water is wet.", []⟩
    let tape : Backend.Script.Tape := { replies := [.ok "[\"Water is wet\"]"] }
    a.verification.maxConcurrency ≤ 1 ∧
      ∃ findings, (a.audit none request tape).1 = .completed findings ∧
        findings.claims = [⟨"Water is wet"⟩] ∧
        (a.audit none request tape).2.exchanges.length = 2 := by
  intro a request tape
  have sequential : a.verification.maxConcurrency ≤ 1 := by decide
  obtain ⟨completes, reflects, _⟩ := audit_in_sequence a request tape
  have completed : (a.audit none request tape).1.isCompleted = true :=
    completes.mpr ⟨_, [], _, _, rfl, rfl⟩
  cases report : (a.audit none request tape).1 with
  | failed failure =>
    rw [report] at completed
    cases completed
  | completed findings =>
    obtain ⟨completion, _, _, calls, ⟨_, answered, _⟩, _, _, count, reflected⟩ :=
      reflects findings sequential report
    have claims : findings.claims = [⟨"Water is wet"⟩] := by
      rw [reflected.divided]
      cases answered
      decide +kernel
    refine ⟨sequential, findings, rfl, claims, ?_⟩
    rw [count, claims]
    rfl

def unknownAt (judgments : List (Judgment Float)) : List Nat :=
  (judgments.zipIdx.filter fun (j, _) => j.status = .unknown).map Prod.snd

theorem unjudged_eq (judgments : List (Judgment Float)) :
    unjudged judgments = (unknownAt judgments).map .verificationFallback := by
  rw [unknownAt, List.map_map]
  rfl

theorem unknownAt_eq (judgments : List (Judgment Float)) :
    unknownAt judgments = positionsOf .unknown judgments := rfl

theorem pairwise_unknownAt (judgments : List (Judgment Float)) :
    (unknownAt judgments).Pairwise (· < ·) :=
  unknownAt_eq judgments ▸ pairwise_positionsOf .unknown judgments

theorem mem_unknownAt {judgments : List (Judgment Float)} {i : Nat} :
    i ∈ unknownAt judgments ↔ ∃ j, judgments[i]? = some j ∧ j.status = .unknown := by
  rw [unknownAt_eq, mem_positionsOf]

theorem Asked.mem_unknownAt_iff {evidence : List String} {claims : List Claim}
    {p q : Progress σ} {log calls : List Exchange}
    (asked : a.Asked evidence claims p log calls q) {i : Nat} :
    i ∈ unknownAt (verdicts claims calls) ↔
      ∃ claim reply, claims[i]? = some claim ∧
        calls[i]? = some ⟨Verification.request a.verification evidence claim, reply⟩ ∧
        Verification.Fails claim reply := by
  rw [mem_unknownAt]
  -- Both directions rest on the status: no reply that can be read states an unknown one.
  constructor
  · rintro ⟨judgment, found, unknown⟩
    obtain ⟨short, _⟩ := List.getElem?_eq_some_iff.mp found
    rw [asked.length_verdicts.2] at short
    obtain ⟨reply, called, entry⟩ := asked.entry (List.getElem?_eq_getElem short)
    rw [entry] at found
    cases found
    exact ⟨_, reply, List.getElem?_eq_getElem short, called,
      Verification.status_judged_eq_unknown_iff.mp unknown⟩
  · rintro ⟨claim, reply, found, called, fails⟩
    obtain ⟨answer, own, entry⟩ := asked.entry found
    rw [called] at own
    cases own
    exact ⟨_, entry, Verification.status_judged_eq_unknown_iff.mpr fails⟩

theorem Asked.eq_unknown {evidence : List String} {claims : List Claim} {p q : Progress σ}
    {log calls : List Exchange} (asked : a.Asked evidence claims p log calls q) {i : Nat}
    {judgment : Judgment Float} (found : (verdicts claims calls)[i]? = some judgment)
    (unknown : judgment.status = .unknown) :
    ∃ claim, claims[i]? = some claim ∧ judgment = .unknown claim := by
  obtain ⟨claim, reply, known, called, fails⟩ :=
    asked.mem_unknownAt_iff.mp (mem_unknownAt.mpr ⟨judgment, found, unknown⟩)
  obtain ⟨answer, own, entry⟩ := asked.entry known
  rw [called] at own
  cases own
  rw [found, Verification.judged_of_fails fails] at entry
  exact ⟨claim, known, Option.some.inj entry⟩

theorem confidence_unknown (claim : Claim) : (Judgment.unknown claim).confidence = 0 := by
  show unitInterval (0 : Float) = 0
  decide

theorem extracted_eq (a : Auditor σ) (request : Request) (completion : Completion) :
    a.extracted request completion =
      match Extraction.claims? a.extraction completion.content with
      | some claims => ⟨claims, false⟩
      | none => ⟨[⟨request.response⟩], true⟩ := rfl

/-- A completed audit lists each path of less quality that it took, in the order of the
stages: that it had no retriever, that it found no claims in the first reply, and each
position whose call failed or was answered with something that is no judgment. -/
theorem degradations_of_completed {findings : Findings}
    (completed : (a.audit none request outside).1 = .completed findings) :
    ∃ (completion : Completion) (s : σ) (retrieved : List String) (log calls : List Exchange)
      (indices : List Nat),
      (a.client.complete (a.opening request)).run outside = (.ok completion, s) ∧
      (a.audit none request outside).2.exchanges =
        ⟨a.opening request, .ok completion⟩ :: log ∧
      log.Perm calls ∧
      calls.map (·.request) = findings.claims.map
        (Verification.request a.verification (documents request retrieved)) ∧
      findings.judgments.length = findings.claims.length ∧
      findings.degradations =
        (if a.retriever.isNone then [.retrievalDisabled] else []) ++
        (if (Extraction.claims? a.extraction completion.content).isNone
          then [.extractionFallback] else []) ++
        indices.map .verificationFallback ∧
      (Extraction.claims? a.extraction completion.content = none →
        findings.claims = [⟨request.response⟩]) ∧
      indices.Pairwise (· < ·) ∧
      (∀ i, i ∈ indices ↔ ∃ claim reply, findings.claims[i]? = some claim ∧
        calls[i]? = some ⟨Verification.request a.verification (documents request retrieved) claim,
          reply⟩ ∧ Verification.Fails claim reply) ∧
      (∀ i, i ∈ indices ↔ ∃ judgment, findings.judgments[i]? = some judgment ∧
        judgment.status = .unknown) ∧
      ∀ judgment ∈ findings.judgments, judgment.status = .unknown →
        judgment.confidence = 0 ∧ judgment.evidence = [] := by
  have ending := audit_ends a request outside
  rw [completed] at ending
  obtain ⟨completion, retrieved, log, calls, p, q, ⟨s, answered, _⟩, asked, rfl, exchanges, _⟩ :=
    ending.succeeds
  refine ⟨completion, s, retrieved, log, calls,
    unknownAt (verdicts (a.extracted request completion).claims calls), answered, exchanges,
    asked.permuted, asked.requests, asked.length_verdicts.2, ?_, fun unusable => ?_,
    pairwise_unknownAt _, fun i => asked.mem_unknownAt_iff, fun i => mem_unknownAt, ?_⟩
  · show (a.divided request completion).degradations ++ unjudged _ = _
    rw [unjudged_eq, divided, extracted_eq, blank]
    cases Extraction.claims? a.extraction completion.content <;> rfl
  · show (a.extracted request completion).claims = _
    rw [extracted_eq, unusable]
  · intro judgment member unknown
    obtain ⟨i, found⟩ := List.mem_iff_getElem?.mp member
    obtain ⟨claim, _, rfl⟩ := asked.eq_unknown found unknown
    exact ⟨confidence_unknown claim, rfl⟩

/-- A script whose first reply holds no list of claims. -/
theorem degradations_of_completed_without_list :
    let a : Auditor Backend.Script.Tape := { client := ({} : Backend.Script).client }
    let request : Request := ⟨"one", "Is water wet?", "Water is wet.", []⟩
    let tape : Backend.Script.Tape := { replies := [.ok "Water is wet"] }
    ∃ findings, (a.audit none request tape).1 = .completed findings ∧
      findings.claims = [⟨"Water is wet."⟩] ∧
      findings.degradations.take 2 = [.retrievalDisabled, .extractionFallback] := by
  intro a request tape
  have completed := (isCompleted_audit_iff a request tape).mpr ⟨_, [], _, _, rfl, rfl⟩
  cases report : (a.audit none request tape).1 with
  | failed failure =>
    rw [report] at completed
    cases completed
  | completed findings =>
    obtain ⟨completion, _, _, _, _, _, answered, _, _, _, _, degradations, fallback, _⟩ :=
      degradations_of_completed report
    have unusable : Extraction.claims? a.extraction completion.content = none := by
      cases answered
      decide +kernel
    refine ⟨findings, rfl, fallback unusable, ?_⟩
    rw [degradations, unusable]
    rfl

end Auditor

end ClaimAudit
