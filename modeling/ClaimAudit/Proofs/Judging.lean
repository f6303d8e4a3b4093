import ClaimAudit.Auditor
import ClaimAudit.Backend.Scripted
import ClaimAudit.Proofs.Window

/-! Judging claims: which calls are made, and which judgment each claim gets.

Claims may be judged one after another or several at once. Either way every claim is
asked about once, and its judgment is read from the answer to its own request; only
the order of the calls differs.
-/

set_option autoImplicit false

namespace ClaimAudit

variable {σ : Type}

def Client.conversation (client : Client σ) : List CompletionRequest → σ → List Exchange × σ
  | [], s => ([], s)
  | request :: rest, s =>
    let (reply, t) := (client.complete request).run s
    let (log, u) := client.conversation rest t
    (⟨request, reply⟩ :: log, u)

theorem Client.conversation_cons (client : Client σ) (request : CompletionRequest)
    (rest : List CompletionRequest) (s : σ) :
    client.conversation (request :: rest) s =
      (⟨request, ((client.complete request).run s).1⟩ ::
          (client.conversation rest ((client.complete request).run s).2).1,
        (client.conversation rest ((client.complete request).run s).2).2) := rfl

theorem Client.conversation_append (client : Client σ) (first rest : List CompletionRequest)
    (s : σ) :
    client.conversation (first ++ rest) s =
      ((client.conversation first s).1 ++
          (client.conversation rest (client.conversation first s).2).1,
        (client.conversation rest (client.conversation first s).2).2) := by
  induction first generalizing s with
  | nil => rfl
  | cons request first ih => simp only [List.cons_append, conversation_cons, ih]

/-- The step of a run that only talked: what it was told is what it kept. -/
structure Talked (client : Client σ) (p : Progress σ) (log : List Exchange) (q : Progress σ) :
    Prop where
  entered : q.entered = p.entered
  exchanges : q.exchanges = p.exchanges ++ log
  conversation : client.conversation (log.map (·.request)) p.outside = (log, q.outside)

namespace Talked

variable {client : Client σ} {p q : Progress σ} {log : List Exchange}

theorem refl (client : Client σ) (p : Progress σ) : Talked client p [] p :=
  ⟨rfl, (List.append_nil _).symm, rfl⟩

theorem wait (talked : Talked client p log q) (clock : Nat) :
    Talked client p log { q with clock } :=
  ⟨talked.entered, talked.exchanges, talked.conversation⟩

theorem converse (talked : Talked client p log q) (limit : Option Nat)
    (request : CompletionRequest) :
    ∃ reply next, (Session.converse client request).resume limit q = (.ok reply, next) ∧
      Talked client p (log ++ [⟨request, reply⟩]) next := by
  refine ⟨_, _, Session.resume_converse limit q client request, talked.entered, ?_, ?_⟩
  · simp only [talked.exchanges, List.append_assoc]
  · rw [List.map_append, Client.conversation_append, talked.conversation]
    rfl

theorem ask (talked : Talked client p log q) (request : CompletionRequest) :
    ∃ reply next, (Session.ask client request).resume none q = (.ok reply, next) ∧
      Talked client p (log ++ [⟨request, reply⟩]) next := by
  rw [Session.resume_ask]
  exact (talked.wait _).converse none request

theorem reply_eq {f : CompletionRequest → Except Error Completion}
    (determined : ∀ request s, ((client.complete request).run s).1 = f request)
    (talked : Talked client p log q) {exchange : Exchange} (said : exchange ∈ log) :
    exchange.reply = f exchange.request := by
  have quoted : ∀ (requests : List CompletionRequest) (s : σ),
      (client.conversation requests s).1.map (·.reply) = requests.map f := by
    intro requests
    induction requests with
    | nil => exact fun _ => rfl
    | cons request rest ih => exact fun s => by simp [Client.conversation_cons, ih, determined]
  have same := quoted (log.map (·.request)) p.outside
  rw [talked.conversation, List.map_map] at same
  exact List.map_inj_left.mp same exchange said

end Talked

namespace Verification

theorem ne_unknown_of_judgedStatus {members : Json.Members} {status : Status}
    (read : judgedStatus members = .ok status) : status ≠ .unknown := by
  unfold judgedStatus at read
  split at read
  · cases read
  · split at read
    · cases read
    · cases read
    · rename_i decided _
      cases read
      exact decided

theorem ofValue_eq_ok_iff {claim : Claim} {value : Json.Value} {judgment : Judgment Float} :
    ofValue claim value = .ok judgment ↔
      ∃ members status stated, value = .object members ∧ judgedStatus members = .ok status ∧
        confidence (Json.Members.get? "confidence" members) = .ok stated ∧
        judgment = .of claim status stated (quotes (Json.Members.get? "evidence" members)) := by
  constructor
  · intro read
    cases value with
    | object members =>
      simp only [ofValue] at read
      cases known : judgedStatus members with
      | error problem => simp [known, bind, Except.bind] at read
      | ok status =>
        cases stated : confidence (Json.Members.get? "confidence" members) with
        | error problem => simp [known, stated, bind, Except.bind] at read
        | ok x =>
          simp only [known, stated, bind, Except.bind, pure, Except.pure,
            Except.ok.injEq] at read
          exact ⟨members, status, x, rfl, known, stated, read.symm⟩
    | null | bool _ | number _ | string _ | array _ => cases read
  · rintro ⟨members, status, x, rfl, known, stated, rfl⟩
    simp only [ofValue, known, stated, bind, Except.bind, pure, Except.pure]

theorem of_ofReply {claim : Claim} {content : String} {judgment : Judgment Float}
    (read : ofReply claim content = .ok judgment) :
    judgment.claim = claim ∧ judgment.status ≠ .unknown := by
  unfold ofReply at read
  split at read
  · obtain ⟨_, _, _, _, known, _, rfl⟩ := ofValue_eq_ok_iff.mp read
    exact ⟨rfl, ne_unknown_of_judgedStatus known⟩
  · cases read

/-- Whether a call for a judgment failed, or its reply holds no judgment. -/
def Fails (claim : Claim) (reply : Except Error Completion) : Prop :=
  (∃ error, reply = .error error) ∨
    ∃ completion problem, reply = .ok completion ∧
      ofReply claim completion.content = .error problem

theorem judged_of_fails {claim : Claim} {reply : Except Error Completion}
    (fails : Fails claim reply) : judged claim reply = .unknown claim := by
  rcases fails with ⟨error, rfl⟩ | ⟨completion, problem, rfl, refused⟩
  · rfl
  · simp only [judged, refused]

theorem judged_of_not_fails {claim : Claim} {reply : Except Error Completion}
    (read : ¬ Fails claim reply) :
    ∃ completion, reply = .ok completion ∧
      ofReply claim completion.content = .ok (judged claim reply) := by
  cases reply with
  | error error => exact absurd (.inl ⟨error, rfl⟩) read
  | ok completion =>
    refine ⟨completion, rfl, ?_⟩
    cases said : ofReply claim completion.content with
    | error problem => exact absurd (.inr ⟨completion, problem, rfl, said⟩) read
    | ok judgment => simp only [judged, said]

@[simp] theorem claim_judged (claim : Claim) (reply : Except Error Completion) :
    (judged claim reply).claim = claim := by
  by_cases fails : Fails claim reply
  · rw [judged_of_fails fails]
    rfl
  · obtain ⟨_, _, read⟩ := judged_of_not_fails fails
    exact (of_ofReply read).1

theorem status_judged_eq_unknown_iff {claim : Claim} {reply : Except Error Completion} :
    (judged claim reply).status = .unknown ↔ Fails claim reply := by
  constructor
  · intro unknown
    by_contra read
    obtain ⟨_, _, said⟩ := judged_of_not_fails read
    exact (of_ofReply said).2 unknown
  · intro fails
    rw [judged_of_fails fails]
    rfl

end Verification

namespace Auditor

variable (a : Auditor σ) (evidence : List String)

def verdicts (claims : List Claim) (calls : List Exchange) : List (Judgment Float) :=
  List.zipWith (fun claim call => Verification.judged claim call.reply) claims calls

/-- How the calls that judge claims went. `calls` are in the order of the claims, and
`log` in the order in which they were answered. -/
structure Asked (claims : List Claim) (p : Progress σ) (log calls : List Exchange)
    (q : Progress σ) : Prop where
  talked : Talked a.client p log q
  requests : calls.map (·.request) = claims.map (Verification.request a.verification evidence)
  permuted : log.Perm calls
  sequential : a.verification.maxConcurrency ≤ 1 → log = calls

variable {p q : Progress σ} {log : List Exchange}

theorem resume_judge (talked : Talked a.client p log q) (claim : Claim) :
    ∃ reply next,
      (a.judge evidence claim).resume none q = (.ok (Verification.judged claim reply), next) ∧
        Talked a.client p
          (log ++ [⟨Verification.request a.verification evidence claim, reply⟩]) next := by
  obtain ⟨reply, next, asked, still⟩ :=
    talked.ask (Verification.request a.verification evidence claim)
  refine ⟨reply, next, ?_, still⟩
  simp only [judge, Session.resume_bind, asked, Session.resume_pure]

theorem resume_judgeNow (talked : Talked a.client p log q) (claim : Claim) :
    ∃ reply next,
      (a.judgeNow evidence claim).resume none q =
          (.ok (Verification.judged claim reply), next) ∧
        Talked a.client p
          (log ++ [⟨Verification.request a.verification evidence claim, reply⟩]) next := by
  obtain ⟨reply, next, asked, still⟩ :=
    talked.converse none (Verification.request a.verification evidence claim)
  refine ⟨reply, next, ?_, still⟩
  simp only [judgeNow, Session.resume_bind, asked, Session.resume_pure]

/-- One claim after another: the calls come in the order of the claims. -/
theorem resume_mapM_judge (claims : List Claim) (talked : Talked a.client p log q) :
    ∃ (calls : List Exchange) (next : Progress σ),
      (claims.mapM (a.judge evidence)).resume none q = (.ok (verdicts claims calls), next) ∧
        Talked a.client p (log ++ calls) next ∧
        calls.map (·.request) = claims.map (Verification.request a.verification evidence) := by
  induction claims generalizing log q with
  | nil => exact ⟨[], q, rfl, by rwa [List.append_nil], rfl⟩
  | cons claim claims ih =>
    obtain ⟨reply, mid, first, still⟩ := resume_judge a evidence talked claim
    obtain ⟨calls, next, rest, done, requests⟩ := ih still
    refine ⟨⟨Verification.request a.verification evidence claim, reply⟩ :: calls, next, ?_, ?_, ?_⟩
    · simp only [List.mapM_cons, Session.resume_bind, first, rest, Session.resume_pure]
      rfl
    · rwa [List.append_assoc, List.singleton_append] at done
    · simp only [List.map_cons, requests]

def exchange (entry : Call Claim × Except Error Completion) : Exchange :=
  ⟨Verification.request a.verification evidence entry.1.item, entry.2⟩

/-- Several claims at once: the run is one of the orders in which a window can be
answered, and its calls are those of the log. -/
theorem resume_judgeAll_window (claims : List Claim) (several : ¬ a.verification.maxConcurrency ≤ 1)
    (p : Progress σ) :
    ∃ (delay : Claim → Nat) (log : List (Call Claim × Except Error Completion))
      (w : Window Claim (Judgment Float)) (q : Progress σ),
      (a.judgeAll evidence claims).resume none p = (.ok w.results, q) ∧
        Window.Reachable a.verification.maxConcurrency delay Verification.judged claims log w ∧
        w.inFlight = [] ∧ Talked a.client p (log.map (a.exchange evidence)) q := by
  simp only [judgeAll, several, if_false]
  obtain ⟨log, w, q, ran, reached, landed, talked⟩ :=
    Window.run_reachable a.verification.maxConcurrency
      (fun claim => a.client.delay (Verification.request a.verification evidence claim))
      claims Verification.judged (a.judgeNow evidence)
      (fun log q => Talked a.client p (log.map (a.exchange evidence)) q)
      (fun _ _ clock kept => kept.wait clock)
      (fun log q call kept => by
        obtain ⟨reply, next, answered, still⟩ := resume_judgeNow a evidence kept call.item
        exact ⟨reply, next, answered, by rwa [List.map_append]⟩)
      (Talked.refl a.client p)
  exact ⟨_, log, w, q, ran, reached, landed, talked⟩

theorem resume_judgeAll (claims : List Claim) (p : Progress σ) :
    ∃ (log calls : List Exchange) (q : Progress σ),
      (a.judgeAll evidence claims).resume none p = (.ok (verdicts claims calls), q) ∧
        a.Asked evidence claims p log calls q := by
  by_cases one : a.verification.maxConcurrency ≤ 1
  · obtain ⟨calls, q, ran, talked, requests⟩ :=
      resume_mapM_judge a evidence claims (Talked.refl a.client p)
    refine ⟨calls, calls, q, ?_, talked, requests, .refl _, fun _ => rfl⟩
    simpa only [judgeAll, one, if_true] using ran
  · obtain ⟨delay, log, w, q, ran, reached, landed, talked⟩ :=
      resume_judgeAll_window a evidence claims one p
    -- The log is in the order of the answers; `calls` holds them in the order of the claims.
    obtain ⟨calls, permuted, _, items, results⟩ := reached.results_eq (by omega) landed
    refine ⟨log.map (a.exchange evidence), calls.map (a.exchange evidence), q, ?_, talked, ?_,
      permuted.symm.map _, fun few => absurd few one⟩
    · rw [ran, results]
      congr 2
      conv_rhs => rw [← items]
      simp [verdicts, List.zipWith_map, List.zipWith_self, exchange]
    · conv_rhs => rw [← items]
      simp [exchange, Function.comp_def]

/-- When replies depend on requests alone, neither the number of calls at once nor the
delays make a difference. -/
theorem resume_judgeAll_determined {f : CompletionRequest → Except Error Completion}
    (determined : ∀ request s, ((a.client.complete request).run s).1 = f request)
    (claims : List Claim) (p : Progress σ) :
    ((a.judgeAll evidence claims).resume none p).1 =
      .ok (claims.map fun claim =>
        Verification.judged claim (f (Verification.request a.verification evidence claim))) := by
  obtain ⟨log, calls, q, ran, asked⟩ := resume_judgeAll a evidence claims p
  have replies : calls.map (·.reply) =
      claims.map fun claim => f (Verification.request a.verification evidence claim) := by
    have quoted : calls.map (·.reply) = (calls.map (·.request)).map f := by
      rw [List.map_map]
      exact List.map_congr_left fun call member =>
        asked.talked.reply_eq determined (asked.permuted.mem_iff.mpr member)
    rw [quoted, asked.requests, List.map_map]
    rfl
  rw [ran, verdicts, ← List.zipWith_map_right (f := fun call : Exchange => call.reply), replies,
    List.zipWith_map_right, List.zipWith_self]

def paced (a : Auditor σ) (atOnce : Nat) (delay : CompletionRequest → Nat) : Auditor σ :=
  { a with client.delay := delay, verification.maxConcurrency := atOnce }

/-- Judging several claims at once is judging them one after another. In every order in
which calls can be answered the bound holds, no claim is asked about twice, and in the
end each claim has the judgment from its own answer, at its own place; a run is one of
these orders. If replies depend on requests alone, the judgments are those of a run
without concurrency, whatever the delays. -/
theorem judgeAll_any_order (claims : List Claim) (several : 2 ≤ a.verification.maxConcurrency) :
    (∀ (delay : Claim → Nat) (log : List (Call Claim × Except Error Completion))
        (w : Window Claim (Judgment Float)),
      Window.Reachable a.verification.maxConcurrency delay Verification.judged claims log w →
        w.inFlight.length ≤ a.verification.maxConcurrency ∧
        (w.inFlight.map (·.position) ++ log.map (·.1.position)).Nodup ∧
        (w.inFlight = [] →
          w.results.map (·.claim) = claims ∧
          ∃ calls : List (Call Claim × Except Error Completion), calls.Perm log ∧
            calls.map (·.1.position) = List.range claims.length ∧
            calls.map (·.1.item) = claims ∧
            w.results = calls.map fun (call, reply) => Verification.judged call.item reply)) ∧
    (∀ p : Progress σ, ∃ (delay : Claim → Nat)
        (log : List (Call Claim × Except Error Completion))
        (w : Window Claim (Judgment Float)) (q : Progress σ),
      (a.judgeAll evidence claims).resume none p = (.ok w.results, q) ∧
        Window.Reachable a.verification.maxConcurrency delay Verification.judged claims log w ∧
        w.inFlight = [] ∧ Talked a.client p (log.map (a.exchange evidence)) q) ∧
    (∀ f : CompletionRequest → Except Error Completion,
      (∀ request s, ((a.client.complete request).run s).1 = f request) →
        ∀ (p : Progress σ) (few : Nat) (delay : CompletionRequest → Nat), few ≤ 1 →
          ((a.judgeAll evidence claims).resume none p).1 =
            .ok (claims.map fun claim =>
              Verification.judged claim
                (f (Verification.request a.verification evidence claim))) ∧
          ((a.judgeAll evidence claims).resume none p).1 =
            (((a.paced few delay).judgeAll evidence claims).resume none p).1) := by
  have parallel : ¬ a.verification.maxConcurrency ≤ 1 := by omega
  refine ⟨?_, ?_, ?_⟩
  · intro delay log w reached
    refine ⟨reached.inFlight_le_width, reached.nodup_positions, fun landed => ?_⟩
    obtain ⟨calls, permuted, positions, items, results⟩ := reached.results_eq (by omega) landed
    refine ⟨?_, calls, permuted, positions, items, results⟩
    rw [results, List.map_map, ← items]
    exact List.map_congr_left fun entry _ => Verification.claim_judged _ _
  · exact resume_judgeAll_window a evidence claims parallel
  · intro f determined p few delay _
    have own := resume_judgeAll_determined a evidence determined claims p
    have other := resume_judgeAll_determined (a.paced few delay) evidence determined claims p
    exact ⟨own, own.trans other.symm⟩

/-- Of two claims the second is answered first, and the judgments keep their order. -/
theorem judgeAll_any_order_second_first :
    let a : Auditor Backend.Script.Tape :=
      { client := ({} : Backend.Script).client, verification.maxConcurrency := 2 }
    2 ≤ a.verification.maxConcurrency ∧
      ∃ (log : List (Call Claim × Except Error Completion)) (w : Window Claim (Judgment Float)),
        Window.Reachable 2 (fun _ => 0) Verification.judged [⟨"first"⟩, ⟨"second"⟩] log w ∧
          log.map (·.1.position) = [1, 0] ∧ w.inFlight = [] ∧
          w.results.map (·.claim) = [⟨"first"⟩, ⟨"second"⟩] := by
  intro a
  have started : Window.Reachable 2 (fun _ => 0) Verification.judged
      [⟨"first"⟩, ⟨"second"⟩] [] _ := .start 0
  have second := started.answer ⟨1, ⟨"second"⟩, 0⟩ (.error Backend.Script.exhausted) 0 (by decide)
  have first := second.answer ⟨0, ⟨"first"⟩, 0⟩ (.error Backend.Script.exhausted) 0 (by decide)
  have several : 2 ≤ a.verification.maxConcurrency := by decide
  refine ⟨several, _, _, first, rfl, rfl, ?_⟩
  exact (((judgeAll_any_order a [] [⟨"first"⟩, ⟨"second"⟩] several).1 _ _ _ first).2.2 rfl).1

end Auditor

end ClaimAudit
