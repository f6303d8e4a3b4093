import ClaimAudit.Proofs.Judging

/-! Whole audits: which stages can fail, and what a completed audit has found.

An invariant says what is known on entering each stage. A stage either takes a run on
to the next one with its invariant, or fails with the error of a call of its own. Only
the first two stages have such calls, and nothing else ends an audit.
-/

set_option autoImplicit false

namespace ClaimAudit

variable {σ : Type}

@[simp] theorem Progress.running_enter (p : Progress σ) (stage : Stage) :
    ({ p with entered := p.entered ++ [stage] } : Progress σ).running = stage := by
  simp [Progress.running]

theorem Talked.answer {client : Client σ} {p q : Progress σ} {request : CompletionRequest}
    {reply : Except Error Completion} (talked : Talked client p [⟨request, reply⟩] q) :
    (client.complete request).run p.outside = (reply, q.outside) := by
  have said := talked.conversation
  simp only [List.map_cons, List.map_nil, Client.conversation_cons, Client.conversation,
    Prod.mk.injEq, List.cons.injEq, Exchange.mk.injEq, and_true, true_and] at said
  exact Prod.ext said.1 said.2

namespace Auditor

variable (a : Auditor σ) (request : Request)

def opening : CompletionRequest := Extraction.request a.extraction request.response

def extracted (completion : Completion) : Extraction :=
  .ofReply a.extraction request.response completion.content

/-- The look-up of an audit. Without a retriever it finds nothing. -/
def lookup (claims : List Claim) : Action σ (List String) :=
  match a.retriever with
  | none => return []
  | some retriever => retriever.evidence request.userQuery claims

def documents (request : Request) (retrieved : List String) : List String :=
  Evidence.unique (request.contextDocs ++ retrieved)

/-- Both calls that can fail an audit succeed, the one after the other. -/
def Succeeds (outside : σ) (completion : Completion) (retrieved : List String) (t : σ) : Prop :=
  ∃ s, (a.client.complete (a.opening request)).run outside = (.ok completion, s) ∧
    (a.lookup request (a.extracted request completion).claims).run s = (.ok retrieved, t)

structure Opened (outside : σ) (completion : Completion) (p : Progress σ) : Prop where
  answered : (a.client.complete (a.opening request)).run outside = (.ok completion, p.outside)
  exchanges : p.exchanges = [⟨a.opening request, .ok completion⟩]

structure Informed (outside : σ) (completion : Completion) (retrieved : List String)
    (p : Progress σ) : Prop where
  succeeds : a.Succeeds request outside completion retrieved p.outside
  exchanges : p.exchanges = [⟨a.opening request, .ok completion⟩]

def divided (completion : Completion) : Draft where
  claims := (a.extracted request completion).claims
  degradations := a.blank.degradations ++
    if (a.extracted request completion).fallback then [.extractionFallback] else []

def decided (completion : Completion) (retrieved : List String) (calls : List Exchange) :
    Draft :=
  let draft := a.divided request completion
  let judgments := verdicts draft.claims calls
  { draft with
    evidenceCount := (documents request retrieved).length
    judgments
    degradations := draft.degradations ++ unjudged judgments }

def assessed (completion : Completion) (retrieved : List String) (calls : List Exchange) :
    Draft :=
  let draft := a.decided request completion retrieved calls
  { draft with assessment := some (.of a.scoring draft.judgments) }

/-- What is known on entering a stage, and at the end. -/
inductive Reached (outside : σ) : Stage → Draft → Progress σ → Prop where
  | decompose {p : Progress σ} (untouched : p.outside = outside) (silent : p.exchanges = []) :
      Reached outside .decompose a.blank p
  | retrieve {completion : Completion} {p : Progress σ} {retriever : Retriever σ}
      (present : a.retriever = some retriever) (opened : a.Opened request outside completion p) :
      Reached outside .retrieve (a.divided request completion) p
  | verify {completion : Completion} {retrieved : List String} {p : Progress σ}
      (informed : a.Informed request outside completion retrieved p) :
      Reached outside .verify { a.divided request completion with retrieved } p
  | score {completion : Completion} {retrieved : List String} {p q : Progress σ}
      {log calls : List Exchange} (informed : a.Informed request outside completion retrieved p)
      (asked : a.Asked (documents request retrieved) (a.extracted request completion).claims
        p log calls q) :
      Reached outside .score (a.decided request completion retrieved calls) q
  | done {completion : Completion} {retrieved : List String} {p q r : Progress σ}
      {log calls : List Exchange} (informed : a.Informed request outside completion retrieved p)
      (asked : a.Asked (documents request retrieved) (a.extracted request completion).claims
        p log calls q)
      -- Entering the last stage changes nothing but the list of stages.
      (outside_eq : r.outside = q.outside) (exchanges_eq : r.exchanges = q.exchanges) :
      Reached outside .done (a.assessed request completion retrieved calls) r

/-- The call whose failure ends an audit in a stage, with everything said until then. -/
inductive Refused (outside : σ) : Stage → Error → List Exchange → Prop where
  | decompose {error : Error} {s : σ}
      (refused : (a.client.complete (a.opening request)).run outside = (.error error, s)) :
      Refused outside .decompose error [⟨a.opening request, .error error⟩]
  | retrieve {retriever : Retriever σ} {completion : Completion} {error : Error} {s t : σ}
      (present : a.retriever = some retriever)
      (answered : (a.client.complete (a.opening request)).run outside = (.ok completion, s))
      (refused : (retriever.evidence request.userQuery
        (a.extracted request completion).claims).run s = (.error error, t)) :
      Refused outside .retrieve error [⟨a.opening request, .ok completion⟩]

variable {a request} {outside : σ}

/-- How a stage can go that is performed from some progress on. -/
def Goes (a : Auditor σ) (request : Request) (outside : σ) (stage : Stage)
    (result : Except Halt Draft × Progress σ) : Prop :=
  (∃ draft q, result = (.ok draft, q) ∧
    a.Reached request outside (stage.next a.retriever.isSome) draft q) ∨
  ∃ error q, result = (.error (.failed error), q) ∧ q.running = stage ∧
    a.Refused request outside stage error q.exchanges

-- One lemma a stage, performed with what is known on entering it. A stage that has no
-- call of its own cannot fail, so its lemma gives the first alternative only.
theorem goes_decompose {p : Progress σ} (running : p.running = .decompose)
    (untouched : p.outside = outside) (silent : p.exchanges = []) :
    a.Goes request outside .decompose
      ((a.perform request a.blank .decompose).resume none p) := by
  obtain ⟨reply, q, asked, talked⟩ := (Talked.refl a.client p).ask (a.opening request)
  have answered : (a.client.complete (a.opening request)).run outside = (reply, q.outside) := by
    rw [← untouched]
    exact talked.answer
  have exchanges : q.exchanges = [⟨a.opening request, reply⟩] := by
    rw [talked.exchanges, silent, List.nil_append]
    rfl
  simp only [perform, decompose, extract, Session.resume_bind]
  rw [show Extraction.request a.extraction request.response = a.opening request from rfl, asked]
  cases reply with
  | error error =>
    refine .inr ⟨error, q, rfl, ?_, ?_⟩
    · rwa [Progress.running, talked.entered]
    · rw [exchanges]
      exact .decompose answered
  | ok completion =>
    refine .inl ⟨a.divided request completion, q, rfl, ?_⟩
    have opened : a.Opened request outside completion q := ⟨answered, exchanges⟩
    cases present : a.retriever with
    | some retriever => exact .retrieve present opened
    | none =>
      -- The look-up of an audit without a retriever is over before it begins.
      have informed : a.Informed request outside completion [] q :=
        ⟨⟨q.outside, answered, by simp only [lookup, present]; rfl⟩, exchanges⟩
      exact .verify informed

theorem goes_retrieve {completion : Completion} {retriever : Retriever σ} {p : Progress σ}
    (running : p.running = .retrieve) (present : a.retriever = some retriever)
    (opened : a.Opened request outside completion p) :
    a.Goes request outside .retrieve
      ((a.perform request (a.divided request completion) .retrieve).resume none p) := by
  simp only [perform, retrieve, present, Session.resume_bind, Retriever.resume_consult,
    Session.resume_call]
  cases found : (retriever.evidence request.userQuery
      (a.divided request completion).claims).run p.outside with
  | mk outcome s =>
    cases outcome with
    | error error =>
      refine .inr ⟨error, _, rfl, running, ?_⟩
      show a.Refused request outside .retrieve error p.exchanges
      rw [opened.exchanges]
      exact .retrieve present opened.answered found
    | ok retrieved =>
      have informed : a.Informed request outside completion retrieved
          { p with
            outside := s
            clock := p.clock + retriever.delay request.userQuery
              (a.extracted request completion).claims } :=
        ⟨⟨p.outside, opened.answered, by simp only [lookup, present]; exact found⟩,
          opened.exchanges⟩
      exact .inl ⟨_, _, rfl, .verify informed⟩

theorem goes_verify {completion : Completion} {retrieved : List String} {p : Progress σ}
    (informed : a.Informed request outside completion retrieved p) :
    a.Goes request outside .verify
      ((a.perform request { a.divided request completion with retrieved } .verify).resume
        none p) := by
  obtain ⟨log, calls, q, ran, asked⟩ :=
    resume_judgeAll a (documents request retrieved) (a.extracted request completion).claims p
  refine .inl ⟨a.decided request completion retrieved calls, q, ?_, .score informed asked⟩
  simp only [perform, verify, Session.resume_bind]
  rw [show Evidence.unique (request.contextDocs ++ retrieved) = documents request retrieved
    from rfl, show (a.divided request completion).claims = (a.extracted request completion).claims
    from rfl, ran]
  rfl

theorem Asked.length_verdicts {evidence : List String} {claims : List Claim}
    {p q : Progress σ} {log calls : List Exchange}
    (asked : a.Asked evidence claims p log calls q) :
    calls.length = claims.length ∧ (verdicts claims calls).length = claims.length := by
  have called : calls.length = claims.length := by
    simpa only [List.length_map] using congrArg List.length asked.requests
  refine ⟨called, ?_⟩
  rw [verdicts, List.length_zipWith, called, Nat.min_self]

theorem goes_score {completion : Completion} {retrieved : List String} {p q r : Progress σ}
    {log calls : List Exchange} (informed : a.Informed request outside completion retrieved p)
    (asked : a.Asked (documents request retrieved) (a.extracted request completion).claims
      p log calls q)
    (outside_eq : r.outside = q.outside) (exchanges_eq : r.exchanges = q.exchanges) :
    a.Goes request outside .score
      ((a.perform request (a.decided request completion retrieved calls) .score).resume
        none r) := by
  have aligned : (a.decided request completion retrieved calls).judgments.length =
      (a.decided request completion retrieved calls).claims.length := asked.length_verdicts.2
  refine .inl ⟨a.assessed request completion retrieved calls, r, ?_,
    .done informed asked outside_eq exchanges_eq⟩
  simp only [perform, score, aligned, if_true, Session.resume_pure, assessed]

/-- The step of a run from one stage to the next. -/
theorem goes_of_reached {stage : Stage} {draft : Draft} {p : Progress σ}
    (reached : a.Reached request outside stage draft p) (unfinished : stage ≠ .done) :
    a.Goes request outside stage
      ((a.perform request draft stage).resume none
        { p with entered := p.entered ++ [stage] }) := by
  cases reached with
  | decompose untouched silent =>
    exact goes_decompose (Progress.running_enter p _) untouched silent
  | retrieve present opened =>
    exact goes_retrieve (Progress.running_enter p _) present
      ⟨opened.answered, opened.exchanges⟩
  | verify informed => exact goes_verify ⟨informed.succeeds, informed.exchanges⟩
  | score informed asked => exact goes_score informed asked rfl rfl
  | done => exact absurd rfl unfinished

/-- A run from some stage on reaches the end, or fails in a stage by one of its calls. -/
theorem resume_walk {stage : Stage} {draft : Draft} {p : Progress σ}
    (reached : a.Reached request outside stage draft p) :
    (∃ final q, (a.walk request stage draft).resume none p = (.ok final, q) ∧
      a.Reached request outside .done final q) ∨
    ∃ failing error q, (a.walk request stage draft).resume none p =
        (.error (.failed error), q) ∧ q.running = failing ∧
      a.Refused request outside failing error q.exchanges := by
  -- The recursion is on the stages left, and `Reached` is handed from one to the next.
  by_cases finished : stage = .done
  · subst finished
    refine .inl ⟨draft, p, ?_, reached⟩
    rw [walk, if_pos rfl, Session.resume_pure]
  · rw [walk, if_neg finished]
    simp only [Session.resume_bind, Session.resume_enter]
    obtain ⟨next, q, ran, onward⟩ | ⟨error, q, ran, running, refused⟩ :=
      goes_of_reached reached finished
    · rw [ran]
      exact resume_walk onward
    · rw [ran]
      exact .inr ⟨stage, error, q, rfl, running, refused⟩
termination_by stage.stepsLeft
decreasing_by exact Stage.stepsLeft_next_lt _ finished

def concluded (a : Auditor σ) (request : Request) (completion : Completion)
    (retrieved : List String) (calls : List Exchange) : Findings :=
  let draft := a.decided request completion retrieved calls
  let assessment := Assessment.of a.scoring draft.judgments
  { requestId := request.requestId
    claims := draft.claims
    judgments := draft.judgments
    faithfulness := assessment.faithfulness
    hallucination := assessment.hallucination
    reasoningTrace := assessment.explanation
    degradations := draft.degradations
    evidenceCount := draft.evidenceCount }

/-- How an audit without a limit can end. -/
inductive Ending (a : Auditor σ) (request : Request) (outside : σ) :
    Report → Progress σ → Prop where
  | completed {completion : Completion} {retrieved : List String} {p q r : Progress σ}
      {log calls : List Exchange} (informed : a.Informed request outside completion retrieved p)
      (asked : a.Asked (documents request retrieved) (a.extracted request completion).claims
        p log calls q)
      (outside_eq : r.outside = q.outside) (exchanges_eq : r.exchanges = q.exchanges) :
      Ending a request outside (.completed (a.concluded request completion retrieved calls)) r
  | failed {stage : Stage} {error : Error} {r : Progress σ}
      (refused : a.Refused request outside stage error r.exchanges) :
      Ending a request outside (.failed (.ofError request.requestId stage error)) r

theorem audit_ends (a : Auditor σ) (request : Request) (outside : σ) :
    a.Ending request outside (a.audit none request outside).1
      (a.audit none request outside).2 := by
  have started : a.Reached request outside .decompose a.blank { outside } := .decompose rfl rfl
  simp only [audit, Session.start, findings, Session.resume_bind]
  obtain ⟨final, q, ran, reached⟩ | ⟨stage, error, q, ran, running, refused⟩ :=
    resume_walk started
  · rw [ran]
    -- The draft at the end has its assessment, so a missing score is never reported.
    cases reached with
    | done informed asked outside_eq exchanges_eq =>
      exact .completed informed asked outside_eq exchanges_eq
  · rw [ran]
    simp only [reportOf, running, Halt.blamed]
    exact .failed refused

end Auditor

end ClaimAudit
