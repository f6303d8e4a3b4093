import ClaimAudit.Proofs.Documents

/-! Retrieval that finds nothing new.

A look-up takes time, so an audit with it does everything after it later than an audit without.
All that an audit reads off its clock is how long to wait, so being later is all the difference:
the same calls are answered in the same order, and a backend that remembers nothing but its own
completions gives them the same replies.
-/

set_option autoImplicit false

namespace ClaimAudit

variable {σ τ α β : Type}

/-- A backend whose completions depend on a part of its condition that nothing but completions
change. -/
structure Client.Remembers (client : Client σ) (memory : σ → τ) : Prop where
  reply : ∀ (request : CompletionRequest) (s t : σ), memory s = memory t →
    ((client.complete request).run s).1 = ((client.complete request).run t).1
  next : ∀ (request : CompletionRequest) (s t : σ), memory s = memory t →
    memory ((client.complete request).run s).2 = memory ((client.complete request).run t).2

theorem Backend.Script.remembers_replies (script : Backend.Script) :
    script.client.Remembers Backend.Script.Tape.replies := by
  have determined : ∀ request (s t : Backend.Script.Tape), s.replies = t.replies →
      ((script.complete request).run s).1 = ((script.complete request).run t).1 ∧
        ((script.complete request).run s).2.replies =
          ((script.complete request).run t).2.replies := by
    rintro request ⟨replies, requests, embedded⟩ ⟨_, requests', embedded'⟩ rfl
    simp only [complete, Action.run_bind]
    cases script.keyedReply? request with
    | some keyed => obtain ⟨_, _ | _, _⟩ := keyed <;> exact ⟨rfl, rfl⟩
    | none => obtain _ | ⟨_ | _, rest⟩ := replies <;> exact ⟨rfl, rfl⟩
  exact ⟨fun request s t same => (determined request s t same).1,
    fun request s t same => (determined request s t same).2⟩

/-- One run behind another by some time. -/
structure Progress.Behind (memory : σ → τ) (delay : Nat) (q p : Progress σ) : Prop where
  clock : q.clock = p.clock + delay
  memory : memory q.outside = memory p.outside
  exchanges : q.exchanges = p.exchanges

namespace Session

/-- A session that talks to a client as another one does, but some time later. -/
inductive Later (client : Client σ) (delay : Nat) : Session σ α → Session σ α → Prop where
  | done (a : α) : Later client delay (.done a) (.done a)
  | clock {next other : Nat → Session σ α}
    (onward : ∀ t, Later client delay (next t) (other (t + delay))) :
    Later client delay (.perform .clock next) (.perform .clock other)
  | waitUntil {next other : Unit → Session σ α} (moment : Nat)
    (onward : Later client delay (next ()) (other ())) :
    Later client delay (.perform (.waitUntil moment) next)
      (.perform (.waitUntil (moment + delay)) other)
  | converse {next other : Except Error Completion → Session σ α} (request : CompletionRequest)
    (onward : ∀ reply, Later client delay (next reply) (other reply)) :
    Later client delay (.perform (.converse client request) next)
      (.perform (.converse client request) other)

namespace Later

variable {client : Client σ} {delay : Nat} {memory : σ → τ}

theorem bind {first other : Session σ α} {next onward : α → Session σ β}
    (later : Later client delay first other)
    (rest : ∀ a, Later client delay (next a) (onward a)) :
    Later client delay (first >>= next) (other >>= onward) := by
  change Later client delay (first.bind next) (other.bind onward)
  induction later with
  | done a => exact rest a
  | clock _ ih => exact .clock ih
  | waitUntil moment _ ih => exact .waitUntil moment ih
  | converse request _ ih => exact .converse request ih

theorem map {first other : Session σ α} (later : Later client delay first other) (f : α → β) :
    Later client delay (do return f (← first)) (do return f (← other)) :=
  later.bind fun a => .done (f a)

theorem mapM {f : β → Session σ α} (each : ∀ item, Later client delay (f item) (f item))
    (items : List β) : Later client delay (items.mapM f) (items.mapM f) := by
  induction items with
  | nil => exact .done []
  | cons item items ih =>
    rw [List.mapM_cons]
    exact (each item).bind fun a => ih.bind fun rest => .done (a :: rest)

theorem ask (request : CompletionRequest) :
    Later client delay (Session.ask client request) (Session.ask client request) := by
  -- The later session reads a later clock, and waits up to a moment that is as much later.
  refine .clock fun t => ?_
  change Later client delay (.perform (.waitUntil (t + client.delay request)) _)
    (.perform (.waitUntil (t + delay + client.delay request)) _)
  rw [Nat.add_right_comm t delay]
  exact .waitUntil _ (.converse request .done)

/-- The same replies lead the later run to the same answer. -/
theorem resume {first other : Session σ α} (later : Later client delay first other)
    (remembers : client.Remembers memory) {p q : Progress σ}
    (behind : q.Behind memory delay p) :
    ∃ a p' q', first.resume none p = (.ok a, p') ∧ other.resume none q = (.ok a, q') ∧
      q'.Behind memory delay p' := by
  induction later generalizing p q with
  | done a => exact ⟨a, p, q, rfl, rfl, behind⟩
  | clock _ ih =>
    obtain ⟨a, p', q', ran, ranLater, still⟩ := ih p.clock behind
    refine ⟨a, p', q', ran, ?_, still⟩
    rw [← behind.clock] at ranLater
    exact ranLater
  | waitUntil moment _ ih =>
    refine ih ⟨?_, behind.memory, behind.exchanges⟩
    -- Both moments are waited for by the same time later.
    change max q.clock (moment + delay) = max p.clock moment + delay
    rw [behind.clock, Nat.add_max_add_right]
  | @converse next other request _ ih =>
    -- Both backends remember the same, so they reply alike and remember the same again.
    have same := remembers.reply request _ _ behind.memory
    have after : Progress.Behind memory delay
        { q with
          outside := ((client.complete request).run q.outside).2
          exchanges := q.exchanges ++ [⟨request, ((client.complete request).run q.outside).1⟩] }
        { p with
          outside := ((client.complete request).run p.outside).2
          exchanges := p.exchanges ++
            [⟨request, ((client.complete request).run p.outside).1⟩] } :=
      ⟨behind.clock, remembers.next request _ _ behind.memory, by rw [same, behind.exchanges]⟩
    obtain ⟨a, p', q', ran, ranLater, still⟩ :=
      ih ((client.complete request).run p.outside).1 after
    refine ⟨a, p', q', ran, ?_, still⟩
    rw [← same] at ranLater
    exact ranLater

end Later

end Session

def Call.postpone (delay : Nat) (call : Call α) : Call α := { call with due := call.due + delay }

namespace Window

def postpone (delay : Nat) (w : Window α β) : Window α β :=
  { w with inFlight := w.inFlight.map (Call.postpone delay) }

theorem earliest?_postpone (delay : Nat) (calls : List (Call α)) :
    earliest? (calls.map (Call.postpone delay)) = (earliest? calls).map (Call.postpone delay) := by
  induction calls with
  | nil => rfl
  | cons call rest ih =>
    rw [List.map_cons, earliest?, ih, earliest?]
    cases earliest? rest with
    | none => rfl
    | some other =>
      have same : (other.due + delay < call.due + delay) = (other.due < call.due) :=
        propext (Nat.add_lt_add_iff_right)
      simp only [Option.map_some, Call.postpone, same]
      split <;> rfl

theorem fill_postpone (width clock delay : Nat) (wait : α → Nat) (w : Window α β) :
    (w.postpone delay).fill width (clock + delay) wait =
      (w.fill width clock wait).postpone delay := by
  simp only [fill, postpone, List.map_append, List.map_map]
  congr 2
  refine List.map_congr_left fun sent _ => ?_
  exact congrArg (Call.mk sent.1 sent.2) (Nat.add_right_comm _ _ _)

theorem answer_postpone (delay position : Nat) (result : β) (w : Window α β) :
    (w.postpone delay).answer position result = (w.answer position result).postpone delay := by
  simp only [answer, postpone, List.filter_map]
  rfl

theorem rounds_later {client : Client σ} {delay : Nat} {reply : α → Session σ β}
    (each : ∀ item, Session.Later client delay (reply item) (reply item)) (width : Nat)
    (wait : α → Nat) (n : Nat) (w : Window α β) :
    Session.Later client delay (rounds width wait reply n w)
      (rounds width wait reply n (w.postpone delay)) := by
  induction n generalizing w with
  | zero => exact .done _
  | succ n ih =>
    rw [rounds, rounds, postpone, earliest?_postpone]
    cases earliest? w.inFlight with
    | none => exact .done _
    | some call =>
      refine .waitUntil call.due ((each call.item).bind fun result => .clock fun t => ?_)
      have onward := ih ((w.answer call.position result).fill width t wait)
      rw [← fill_postpone, ← answer_postpone] at onward
      exact onward

theorem run_later {client : Client σ} {delay : Nat} {reply : α → Session σ β}
    (each : ∀ item, Session.Later client delay (reply item) (reply item)) (width : Nat)
    (wait : α → Nat) (items : List α) :
    Session.Later client delay (run width wait reply items) (run width wait reply items) := by
  refine .clock fun t => ?_
  have onward := rounds_later each width wait items.length ((of items).fill width t wait)
  rw [← fill_postpone] at onward
  exact onward

end Window

theorem Evidence.unique_append_of_subset {texts others : List String} (known : others ⊆ texts) :
    unique (texts ++ others) = unique texts := by
  rw [unique_append, List.filter_eq_nil_iff.mpr, List.append_nil]
  intro text member
  have place := known (mem_unique.mp member)
  simpa using place

namespace Auditor

variable {a : Auditor σ} {request : Request} {completion : Completion}

theorem judgeAll_later (a : Auditor σ) (delay : Nat) (evidence : List String)
    (claims : List Claim) : Session.Later a.client delay (a.judgeAll evidence claims)
      (a.judgeAll evidence claims) := by
  rw [judgeAll]
  split
  · exact .mapM (fun claim => (Session.Later.ask _).map _) claims
  · exact Window.run_later
      (fun claim => (Session.Later.converse _ fun reply => .done reply).map _) _ _ claims

def conclude (request : Request) (draft : Draft) : Session σ Findings := do
  Session.enter .done
  match draft.assessment with
  | none => .fail ((Error.internal "run finished without a score").atStage .score)
  | some assessment =>
    return {
      requestId := request.requestId
      claims := draft.claims
      judgments := draft.judgments
      faithfulness := assessment.faithfulness
      hallucination := assessment.hallucination
      reasoningTrace := assessment.explanation
      degradations := draft.degradations
      evidenceCount := draft.evidenceCount }

theorem findings_eq (a : Auditor σ) (request : Request) :
    a.findings request = a.walk request .decompose a.blank >>= conclude request := rfl

theorem start_findings (a : Auditor σ) (request : Request) {outside s : σ}
    {reply : Except Error Completion}
    (answered : (a.client.complete (a.opening request)).run outside = (reply, s)) :
    ∃ p : Progress σ, p.outside = s ∧ p.clock = a.client.delay (a.opening request) ∧
      p.exchanges = [⟨a.opening request, reply⟩] ∧ p.running = .decompose ∧
      (∀ error, reply = .error error →
        (a.findings request).start none outside = (.error (.failed error), p)) ∧
      ∀ completion, reply = .ok completion → (a.findings request).start none outside =
        (a.walk request (Stage.decompose.next a.retriever.isSome)
          (a.divided request completion) >>= conclude request).resume none p := by
  have asked : Extraction.request a.extraction request.response = a.opening request := rfl
  refine ⟨⟨s, a.client.delay (a.opening request), [.decompose], [⟨a.opening request, reply⟩]⟩,
    rfl, rfl, rfl, rfl, ?_, ?_⟩
  all_goals
    rintro outcome rfl
    rw [findings_eq, walk, if_neg (by decide)]
    simp only [Session.start, Session.resume_bind, Session.resume_enter, perform, decompose,
      extract, Session.resume_ask, Session.resume_converse, asked, answered, Nat.zero_add]
    rfl

theorem resume_from_verify {retrieved : List String} {p q : Progress σ} {calls : List Exchange}
    (judged : (a.judgeAll (documents request retrieved)
      (a.extracted request completion).claims).resume none
        { p with entered := p.entered ++ [.verify] } =
      (.ok (verdicts (a.extracted request completion).claims calls), q))
    (aligned : (verdicts (a.extracted request completion).claims calls).length =
      (a.extracted request completion).claims.length) :
    ∃ r, (a.walk request .verify { a.divided request completion with retrieved } >>=
        conclude request).resume none p =
          (.ok (a.concluded request completion retrieved calls), r) ∧
      r.exchanges = q.exchanges := by
  have documented : Evidence.unique (request.contextDocs ++ retrieved) =
    documents request retrieved := rfl
  have divided : (a.divided request completion).claims =
    (a.extracted request completion).claims := rfl
  refine ⟨⟨q.outside, q.clock, q.entered ++ [.score] ++ [.done], q.exchanges⟩, ?_, rfl⟩
  rw [walk, if_neg (by decide)]
  simp only [Session.resume_bind, Session.resume_enter, perform, verify, documented, divided,
    judged, Session.resume_pure]
  rw [Stage.next, walk, if_neg (by decide)]
  simp only [Session.resume_bind, Session.resume_enter, perform, score, aligned, if_true,
    Session.resume_pure]
  rw [Stage.next, walk, if_pos rfl]
  rfl

/-- A look-up that succeeds only lets time pass. -/
theorem resume_from_retrieve {r : Retriever σ} (present : a.retriever = some r)
    {retrieved : List String} {p : Progress σ} {t : σ}
    (found : (r.evidence request.userQuery (a.extracted request completion).claims).run p.outside =
      (.ok retrieved, t)) :
    ∃ q : Progress σ, q.outside = t ∧ p.clock ≤ q.clock ∧ q.exchanges = p.exchanges ∧
      (a.walk request .retrieve (a.divided request completion) >>= conclude request).resume none p =
        (a.walk request .verify { a.divided request completion with retrieved } >>=
          conclude request).resume none q := by
  have divided : (a.divided request completion).claims =
    (a.extracted request completion).claims := rfl
  refine ⟨⟨t, p.clock + r.delay request.userQuery (a.extracted request completion).claims,
    p.entered ++ [.retrieve], p.exchanges⟩, rfl, Nat.le_add_right _ _, rfl, ?_⟩
  rw [walk, if_neg (by decide)]
  simp only [Session.resume_bind, Session.resume_enter, perform, retrieve, present,
    Retriever.resume_consult, Session.resume_call, divided, found]
  rfl

def equip (a : Auditor σ) (retriever : Option (Retriever σ)) : Auditor σ := { a with retriever }

section Idle

variable {memory : σ → τ} {delay : Nat} {p q : Progress σ} {retrieved : List String}
  {calls : List Exchange}

theorem documents_of_subset (known : retrieved ⊆ request.contextDocs) :
    documents request retrieved = documents request [] := by
  rw [documents, documents, List.append_nil, Evidence.unique_append_of_subset known]

/-- Two runs that come to judging with the same documents, the one behind the other, conclude from
the same calls. -/
theorem resume_behind (r : Retriever σ) (completion : Completion)
    (remembers : a.client.Remembers memory) (behind : q.Behind memory delay p)
    (known : retrieved ⊆ request.contextDocs) :
    ∃ calls u v,
      ((a.equip none).walk request .verify ((a.equip none).divided request completion) >>=
        conclude request).resume none p =
          (.ok ((a.equip none).concluded request completion [] calls), u) ∧
      ((a.equip (some r)).walk request .verify
          { (a.equip (some r)).divided request completion with retrieved } >>=
        conclude request).resume none q =
          (.ok ((a.equip (some r)).concluded request completion retrieved calls), v) ∧
      v.exchanges = u.exchanges := by
  have entered : Progress.Behind memory delay { q with entered := q.entered ++ [.verify] }
    { p with entered := p.entered ++ [.verify] } := ⟨behind.clock, behind.memory, behind.exchanges⟩
  obtain ⟨log, calls, p', judged, asked⟩ := resume_judgeAll a (documents request [])
    (a.extracted request completion).claims { p with entered := p.entered ++ [.verify] }
  obtain ⟨judgments, p'', q', ran, ranBehind, still⟩ := (judgeAll_later a delay
    (documents request []) (a.extracted request completion).claims).resume remembers entered
  -- The run in front is the one whose calls are known, so the judgments are those of its calls.
  rw [judged] at ran
  cases ran
  rw [← documents_of_subset known] at ranBehind
  obtain ⟨u, done, said⟩ :=
    resume_from_verify (a := a.equip none) judged asked.length_verdicts.2
  obtain ⟨v, doneBehind, saidBehind⟩ :=
    resume_from_verify (a := a.equip (some r)) ranBehind asked.length_verdicts.2
  exact ⟨calls, u, v, done, doneBehind, by rw [saidBehind, said, still.exchanges]⟩

theorem concluded_of_subset (a : Auditor σ) (r : Retriever σ) (completion : Completion)
    (known : retrieved ⊆ request.contextDocs) :
    (a.equip none).concluded request completion [] calls =
      { (a.equip (some r)).concluded request completion retrieved calls with
        degradations := .retrievalDisabled ::
          ((a.equip (some r)).concluded request completion retrieved calls).degradations } := by
  simp only [concluded, decided, documents_of_subset known]
  rfl

/-- Retrieval that finds no more than the caller supplied changes nothing but the note that there
was none: the same is asked, the same failure is reported, and the same findings. -/
theorem idle_retrieval (a : Auditor σ) (r : Retriever σ) (request : Request) (outside : σ)
    (memory : σ → τ) (remembers : a.client.Remembers memory)
    (idle : ∀ completion s,
      (a.client.complete (a.opening request)).run outside = (.ok completion, s) →
        ∃ retrieved t,
          (r.evidence request.userQuery (a.extracted request completion).claims).run s =
            (.ok retrieved, t) ∧
          memory t = memory s ∧ retrieved ⊆ request.contextDocs) :
    let alone := (a.equip none).audit none request outside
    let aided := (a.equip (some r)).audit none request outside
    aided.2.exchanges = alone.2.exchanges ∧
      ((∃ failure, alone.1 = .failed failure ∧ aided.1 = .failed failure) ∨
        ∃ findings, aided.1 = .completed findings ∧ alone.1 = .completed { findings with
          degradations := .retrievalDisabled :: findings.degradations }) := by
  intro alone aided
  have alone_eq : alone = _ := audit_eq (a.equip none) none request outside
  have aided_eq : aided = _ := audit_eq (a.equip (some r)) none request outside
  rcases answered : (a.client.complete (a.opening request)).run outside with ⟨reply, s⟩
  obtain ⟨p, outsideAlone, clockAlone, saidAlone, runningAlone, refusedAlone, goesAlone⟩ :=
    start_findings (a.equip none) request answered
  obtain ⟨q, outsideAided, clockAided, saidAided, runningAided, refusedAided, goesAided⟩ :=
    start_findings (a.equip (some r)) request answered
  -- Up to the answer to this call both audits are the same run.
  cases reply with
  | error error =>
    rw [alone_eq, aided_eq, refusedAlone error rfl, refusedAided error rfl]
    refine ⟨saidAided.trans saidAlone.symm, .inl ⟨_, rfl, ?_⟩⟩
    rw [reportOf, runningAlone, runningAided]
  | ok completion =>
    obtain ⟨retrieved, t, found, kept, known⟩ := idle completion s answered
    rw [← outsideAided] at found
    obtain ⟨q', outsideFound, later, saidFound, goesOn⟩ :=
      resume_from_retrieve (a := a.equip (some r)) rfl found
    have behind : q'.Behind memory (q'.clock - p.clock) p := by
      refine ⟨?_, ?_, saidFound.trans (saidAided.trans saidAlone.symm)⟩
      · have together : p.clock = q.clock := clockAlone.trans clockAided.symm
        omega
      · rw [outsideFound, outsideAlone]
        exact kept
    obtain ⟨calls, u, v, doneAlone, doneAided, said⟩ :=
      resume_behind r completion remembers behind known
    rw [alone_eq, aided_eq, (goesAlone completion rfl).trans doneAlone,
      (goesAided completion rfl).trans (goesOn.trans doneAided)]
    exact ⟨said, .inr ⟨_, rfl, congrArg Report.completed
      (concluded_of_subset a r completion known)⟩⟩

end Idle

/-- The document that is found is the caller's own. The backend embeds the queries too. -/
theorem idle_retrieval_same_document :
    let store : Knowledge.Store Backend.Script.Tape :=
      { ensure := pure ()
        upsert := fun _ => pure 0
        search := fun _ _ => pure [⟨"one", "Rain is wet.", .zero, []⟩]
        count := pure 1
        healthy := pure true }
    let client := ({ embeddings := some [[.zero], [.zero]] } : Backend.Script).client
    let a : Auditor Backend.Script.Tape := { client, verification.maxConcurrency := 2 }
    let r : Retriever Backend.Script.Tape := ⟨.ofClient client "embedder" 1, store, {}⟩
    let request : Request := ⟨"one", "Is water wet?", "Water is wet.", ["Rain is wet."]⟩
    let tape : Backend.Script.Tape := { replies := [.ok "Water is wet"] }
    a.client.Remembers Backend.Script.Tape.replies ∧
      ((a.equip (some r)).audit none request tape).2.exchanges =
        ((a.equip none).audit none request tape).2.exchanges := by
  intro store client a r request tape
  have remembers : a.client.Remembers Backend.Script.Tape.replies :=
    Backend.Script.remembers_replies _
  refine ⟨remembers, (idle_retrieval a r request tape _ remembers ?_).1⟩
  intro completion s answered
  cases answered
  rw [show (a.extracted request _).claims = [⟨"Water is wet."⟩] by decide +kernel]
  have queries : Retriever.queries request.userQuery [⟨"Water is wet."⟩] =
    ["Is water wet?", "Water is wet."] := by decide +kernel
  refine ⟨["Rain is wet."], ⟨[], [a.opening request],
    [⟨some "embedder", ["Is water wet?", "Water is wet."]⟩]⟩, ?_, rfl, List.Subset.refl _⟩
  rw [Retriever.evidence, Retriever.gather, queries]
  rfl

end Auditor

end ClaimAudit
