import ClaimAudit.Proofs.Session
import ClaimAudit.Proofs.Stages

/-! The order of the stages, and what each of them asks.

Every operation that reaches outside of an audit belongs to one stage, and a stage
performs no others. So the stages that a run enters, one after another and each once,
account for all that it asked: a run that ends in a stage asked nothing of a later one.
Without a limit only the first two stages can end a run, and the error it ends with is
that of the call that failed.
-/

set_option autoImplicit false

namespace ClaimAudit

variable {σ : Type}

namespace Stage

def order (retrieval : Bool) : List Stage :=
  [.decompose] ++ (if retrieval then [.retrieve] else []) ++ [.verify, .score, .done]

def route (retrieval : Bool) : Stage → List Stage
  | .decompose => .decompose :: if retrieval then [.retrieve, .verify, .score] else [.verify, .score]
  | .retrieve => [.retrieve, .verify, .score]
  | .verify => [.verify, .score]
  | .score => [.score]
  | .done => []

def asks : Stage → Bool
  | .decompose | .retrieve | .verify => true
  | .score | .done => false

theorem route_eq_cons {s : Stage} (retrieval : Bool) (unfinished : s ≠ .done) :
    s.route retrieval = s :: (s.next retrieval).route retrieval := by
  cases s with
  | done => exact absurd rfl unfinished
  | decompose => cases retrieval <;> rfl
  | retrieve | verify | score => rfl

theorem order_eq (retrieval : Bool) : order retrieval = decompose.route retrieval ++ [.done] := by
  cases retrieval <;> rfl

theorem nodup_order (retrieval : Bool) : (order retrieval).Nodup := by
  cases retrieval <;> decide

theorem verify_not_mem {retrieval : Bool} {entered : List Stage} {last : Stage}
    (inOrder : entered <+: order retrieval) (running : entered.getLast? = some last)
    (early : last = .decompose ∨ last = .retrieve) : .verify ∉ entered := by
  have cut : ∀ retrieval, ∀ n ≤ (order retrieval).length, ∀ last,
      ((order retrieval).take n).getLast? = some last →
        last = .decompose ∨ last = .retrieve → .verify ∉ (order retrieval).take n := by
    decide
  rw [List.prefix_iff_eq_take.mp inOrder] at running ⊢
  exact cut retrieval _ inOrder.length_le last running early

def prompt? : Stage → Option String
  | .decompose => some Extraction.systemPrompt
  | .verify => some Verification.systemPrompt
  | .retrieve | .score | .done => none

theorem eq_of_prompt? {s t : Stage} (first : s.asks = true) (second : t.asks = true)
    (same : s.prompt? = t.prompt?) : s = t := by
  have differ : Extraction.systemPrompt ≠ Verification.systemPrompt := by
    simp [Extraction.systemPrompt, Verification.systemPrompt]
  cases s <;> cases t <;> simp_all [asks, prompt?, differ.symm]

end Stage

def Operation.prompt? : Operation σ → Option String
  | .converse _ request => request.system
  | _ => none

namespace Auditor

variable {a : Auditor σ} {request : Request} {stage : Stage} {evidence : List String}

/-- What the stages of an audit ask: the first for the claims, the second for vectors and
for what is near them, the third for judgments. -/
inductive Belongs (a : Auditor σ) (request : Request) : Stage → Operation σ → Prop where
  | opening : Belongs a request .decompose (.converse a.client (a.opening request))
  | embedding {retriever : Retriever σ} (present : a.retriever = some retriever)
      (texts : List String) :
      Belongs a request .retrieve (.attempt (retriever.embedder.embed texts))
  | search {retriever : Retriever σ} (present : a.retriever = some retriever)
      (vector : Embedding) :
      Belongs a request .retrieve (.attempt (retriever.store.search vector retriever.limits))
  | judging (evidence : List String) (claim : Claim) :
      Belongs a request .verify
        (.converse a.client (Verification.request a.verification evidence claim))

/-- What is done within a stage. Only a stage that asks has to wait. -/
inductive Does (a : Auditor σ) (request : Request) (stage : Stage) : Operation σ → Prop where
  | clock (asks : stage.asks = true) : Does a request stage .clock
  | waitUntil (asks : stage.asks = true) (moment : Nat) : Does a request stage (.waitUntil moment)
  | call {operation : Operation σ} (own : a.Belongs request stage operation) :
      Does a request stage operation

variable {operation : Operation σ}

theorem Belongs.outward (own : a.Belongs request stage operation) : operation.outward = true := by
  cases own <;> rfl

theorem Does.belongs (does : a.Does request stage operation) (reaches : operation.outward = true) :
    a.Belongs request stage operation := by
  cases does with
  | clock => cases reaches
  | waitUntil => cases reaches
  | call own => exact own

theorem Does.asks {moment : Nat} (does : a.Does request stage (.waitUntil moment)) :
    stage.asks = true := by
  cases does with
  | waitUntil asks => exact asks
  | call own => exact nomatch own.outward

theorem Does.entered_run (does : a.Does request stage operation) (limit : Option Nat)
    (p : Progress σ) : (operation.run limit p).2.entered = p.entered := by
  cases operation with
  | enter stage =>
    cases does with
    | call own => exact nomatch own.outward
  | waitUntil moment =>
    simp only [Operation.run]
    split
    · split <;> rfl
    · rfl
  | clock | attempt | converse => rfl

theorem Belongs.prompt? (own : a.Belongs request stage operation) :
    operation.prompt? = stage.prompt? ∧ stage.asks = true := by
  cases own with
  | opening =>
    refine ⟨?_, rfl⟩
    show (Extraction.request a.extraction request.response).system = some Extraction.systemPrompt
    unfold Extraction.request
    cases a.extraction.model <;> rfl
  | embedding | search => exact ⟨rfl, rfl⟩
  | judging evidence claim =>
    refine ⟨?_, rfl⟩
    show (Verification.request a.verification evidence claim).system =
      some Verification.systemPrompt
    unfold Verification.request
    cases a.verification.model <;> rfl

theorem Belongs.unique {other : Stage} (own : a.Belongs request stage operation)
    (too : a.Belongs request other operation) : stage = other := by
  obtain ⟨prompt, asks⟩ := own.prompt?
  obtain ⟨same, alsoAsks⟩ := too.prompt?
  rw [prompt] at same
  exact Stage.eq_of_prompt? asks alsoAsks same

section Programs

-- One lemma a part of the program: whatever it is answered, it does what its stage does.
theorem wait_abides (asks : stage.asks = true) (milliseconds : Nat) :
    (Session.wait milliseconds).Abides (a.Does request stage) fun _ => True :=
  .perform (.clock asks) fun _ => .perform (.waitUntil asks _) fun _ => .done trivial

theorem call_abides {α : Type} {action : Action σ α}
    (own : a.Belongs request stage (.attempt action)) :
    (Session.call action).Abides (a.Does request stage) fun _ => True := by
  refine .perform (.call own) fun outcome => ?_
  cases outcome with
  | ok found => exact .done trivial
  | error error => exact .fail error

theorem ask_abides (asks : stage.asks = true) {question : CompletionRequest}
    (own : a.Belongs request stage (.converse a.client question)) :
    (Session.ask a.client question).Abides (a.Does request stage) fun _ => True :=
  (wait_abides asks _).andThen fun _ => .perform (.call own) fun _ => .done trivial

theorem consult_abides {retriever : Retriever σ} (present : a.retriever = some retriever)
    (userQuery : String) (claims : List Claim) :
    (retriever.consult userQuery claims).Abides (a.Does request .retrieve) fun _ => True := by
  simp only [Retriever.consult, Retriever.gather]
  split
  · exact .done trivial
  · refine ((wait_abides rfl _).andThen fun _ => call_abides (.embedding present _)).andThen ?_
    intro vectors
    refine (Session.Abides.mapM fun vector _ => call_abides (.search present vector)).andThen ?_
    exact fun _ => .done trivial

theorem rounds_abides {β : Type} {delay : Claim → Nat} {reply : Claim → Session σ β}
    (width : Nat)
    (each : ∀ claim, (reply claim).Abides (a.Does request .verify) fun _ => True) (n : Nat)
    (w : Window Claim β) :
    (Window.rounds width delay reply n w).Abides (a.Does request .verify) fun _ => True := by
  induction n generalizing w with
  | zero => exact .done trivial
  | succ n ih =>
    rw [Window.rounds]
    split
    · exact .done trivial
    · refine .perform (.waitUntil rfl _) fun _ => (each _).andThen fun result => ?_
      exact .perform (.clock rfl) fun clock => ih _

theorem judgeAll_abides (claims : List Claim) :
    (a.judgeAll evidence claims).Abides (a.Does request .verify) fun _ => True := by
  simp only [judgeAll]
  split
  · refine Session.Abides.mapM fun claim _ => ?_
    exact (ask_abides rfl (.judging evidence claim)).andThen fun _ => .done trivial
  · refine .perform (.clock rfl) fun clock => rounds_abides _ (fun claim => ?_) _ _
    exact .perform (.call (.judging evidence claim)) fun _ => .done trivial

theorem perform_abides (a : Auditor σ) (request : Request) (stage : Stage) (draft : Draft) :
    (a.perform request draft stage).Abides (a.Does request stage) fun _ => True := by
  cases stage with
  | decompose =>
    refine Session.Abides.andThen ((ask_abides rfl .opening).andThen fun reply => ?_)
      fun _ => .done trivial
    cases reply with
    | ok completion => exact .done trivial
    | error error => exact .fail error
  | retrieve =>
    simp only [perform, retrieve]
    split
    · exact .fail _
    · rename_i retriever present
      exact (consult_abides present _ _).andThen fun _ => .done trivial
  | verify => exact (judgeAll_abides _).andThen fun _ => .done trivial
  | score =>
    simp only [perform, score]
    split
    · exact .done trivial
    · exact .fail _
  | done => exact .done trivial

end Programs

/-- How a run through the stages goes from one on: which of them it passes, in order, and
that all it asks belongs to these. -/
structure Passes (a : Auditor σ) (request : Request) (stage : Stage) (p : Progress σ)
    (result : Except Halt Draft × Progress σ)
    (performed : List (Operation σ)) (passed : List Stage) : Prop where
  entered : result.2.entered = p.entered ++ passed
  begun : stage ≠ .done → passed ≠ []
  onRoute : passed <+: stage.route a.retriever.isSome
  complete : ∀ draft, result.1 = .ok draft → passed = stage.route a.retriever.isSome
  asked : ∀ operation ∈ performed, operation.outward = true →
    ∃ s ∈ passed, a.Belongs request s operation
  expired : ∀ most, result.1 = .error (.expired most) → ∃ s, passed.getLast? = some s ∧
    s.asks = true

section Steps

variable {p q : Progress σ} {performed later : List (Operation σ)} {passed : List Stage}
  {limit : Option Nat}

theorem entered_of_perform {draft : Draft} {outcome : Except Halt Draft}
    (ran : (a.perform request draft stage).resume limit p = (outcome, q)) :
    q.entered = p.entered := by
  have kept := (a.perform_abides request stage draft).resume_keeps
    (fun p q => q.entered = p.entered) (fun _ => rfl) (fun first second => second.trans first) limit
    (fun _ q does => does.entered_run limit q) p
  rwa [ran] at kept

theorem belongs_of_mem_performed {draft : Draft} {operation : Operation σ}
    (member : operation ∈ (a.perform request draft stage).performed limit p)
    (reaches : operation.outward = true) : a.Belongs request stage operation :=
  ((a.perform_abides request stage draft).of_mem_performed member).belongs reaches

theorem asks_of_expired {draft : Draft} {most : Nat}
    (ran : (a.perform request draft stage).resume limit p = (.error (.expired most), q)) :
    stage.asks = true :=
  let ⟨_, does⟩ := (a.perform_abides request stage draft).waits_of_expired ran
  does.asks

variable (finished : stage ≠ .done) (entered : q.entered = p.entered ++ [stage])
  (own : ∀ operation ∈ performed, operation.outward = true → a.Belongs request stage operation)

include own in
theorem belongs_of_mem_entered : ∀ operation ∈ [.enter stage] ++ performed,
    operation.outward = true → a.Belongs request stage operation := by
  intro operation member reaches
  rcases List.mem_append.mp member with entering | inside
  · rw [List.mem_singleton.mp entering] at reaches
    cases reaches
  · exact own operation inside reaches

include finished entered own

theorem Passes.halted {halt : Halt} (expired : ∀ most, halt = .expired most → stage.asks = true) :
    a.Passes request stage p (.error halt, q) ([.enter stage] ++ performed) [stage] where
  entered := entered
  begun _ := List.cons_ne_nil _ _
  onRoute := Stage.route_eq_cons _ finished ▸ ⟨_, rfl⟩
  complete _ done := by cases done
  asked operation member reaches :=
    ⟨stage, List.mem_singleton_self _, belongs_of_mem_entered own operation member reaches⟩
  expired most stopped := ⟨stage, rfl, expired most (Except.error.inj stopped)⟩

/-- The rest of a run starts where a stage ended. -/
theorem Passes.cons {result : Except Halt Draft × Progress σ}
    (rest : a.Passes request (stage.next a.retriever.isSome) q result later passed) :
    a.Passes request stage p result ([.enter stage] ++ (performed ++ later))
      (stage :: passed) where
  entered := by rw [rest.entered, entered, List.append_assoc, List.singleton_append]
  begun _ := List.cons_ne_nil _ _
  onRoute := by
    rw [Stage.route_eq_cons _ finished]
    exact (List.prefix_cons_inj stage).mpr rest.onRoute
  complete draft done := by rw [Stage.route_eq_cons _ finished, rest.complete draft done]
  asked operation member reaches := by
    rw [← List.append_assoc] at member
    rcases List.mem_append.mp member with here | later
    · exact ⟨stage, List.mem_cons_self, belongs_of_mem_entered own operation here reaches⟩
    · obtain ⟨s, member, belongs⟩ := rest.asked operation later reaches
      exact ⟨s, List.mem_cons_of_mem _ member, belongs⟩
  expired most stopped := by
    obtain ⟨s, last, asks⟩ := rest.expired most stopped
    refine ⟨s, ?_, asks⟩
    cases passed with
    | nil => cases last
    | cons first others => rwa [List.getLast?_cons_cons]

end Steps

theorem walk_passes (a : Auditor σ) (request : Request) (stage : Stage) (draft : Draft)
    (limit : Option Nat) (p : Progress σ) :
    ∃ passed, a.Passes request stage p ((a.walk request stage draft).resume limit p)
      ((a.walk request stage draft).performed limit p) passed := by
  by_cases finished : stage = .done
  · subst finished
    rw [walk, if_pos rfl]
    exact ⟨[], (List.append_nil _).symm, absurd rfl, List.prefix_rfl, fun _ _ => rfl,
      fun _ member => (by cases member), fun _ stopped => (by cases stopped)⟩
  · rw [walk, if_neg finished]
    simp only [Session.resume_bind, Session.performed_bind, Session.resume_enter]
    rcases ran : (a.perform request draft stage).resume limit
      { p with entered := p.entered ++ [stage] } with ⟨halt | next, q⟩
    · have expired (most : Nat) (stopped : halt = .expired most) : stage.asks = true :=
        asks_of_expired (stopped ▸ ran)
      simp only [List.append_nil]
      exact ⟨[stage], .halted finished (entered_of_perform ran)
        (fun _ => belongs_of_mem_performed) expired⟩
    · obtain ⟨passed, rest⟩ := walk_passes a request (stage.next a.retriever.isSome) next limit q
      exact ⟨stage :: passed, rest.cons finished (entered_of_perform ran)
        fun _ => belongs_of_mem_performed⟩
termination_by stage.stepsLeft
decreasing_by exact Stage.stepsLeft_next_lt _ finished

structure Observes (a : Auditor σ) (request : Request)
    (result : Except Halt Findings × Progress σ) (performed : List (Operation σ)) : Prop where
  begun : result.2.entered ≠ []
  inOrder : result.2.entered <+: Stage.order a.retriever.isSome
  complete : ∀ findings, result.1 = .ok findings →
    result.2.entered = Stage.order a.retriever.isSome
  asked : ∀ operation ∈ performed, operation.outward = true →
    ∃ s ∈ result.2.entered, a.Belongs request s operation
  expired : ∀ most, result.1 = .error (.expired most) →
    ∃ s, result.2.entered.getLast? = some s ∧ s.asks = true

section Endings

variable {p q : Progress σ} {performed : List (Operation σ)} {passed : List Stage}
  (fresh : p.entered = [])
include fresh

theorem Passes.observes {halt : Halt}
    (passes : a.Passes request .decompose p (.error halt, q) performed passed) :
    a.Observes request (.error halt, q) performed := by
  have entered : q.entered = passed := by rw [passes.entered, fresh, List.nil_append]
  refine ⟨entered ▸ passes.begun (by decide), ?_, fun _ done => (by cases done), ?_, ?_⟩
  · rw [entered, Stage.order_eq]
    exact passes.onRoute.trans (List.prefix_append _ _)
  · rw [entered]
    exact passes.asked
  · intro most stopped
    rw [entered]
    exact passes.expired most (congrArg Except.error (Except.error.inj stopped))

/-- After the last stage nothing is asked, and nothing halts but an error. -/
theorem Passes.observes_done {draft : Draft} {result : Except Halt Findings}
    (passes : a.Passes request .decompose p (.ok draft, q) performed passed)
    (unexpired : ∀ most, result ≠ .error (.expired most)) :
    a.Observes request (result, { q with entered := q.entered ++ [.done] })
      (performed ++ [.enter .done]) := by
  have entered : q.entered = passed := by rw [passes.entered, fresh, List.nil_append]
  have whole : q.entered ++ [.done] = Stage.order a.retriever.isSome := by
    rw [entered, passes.complete draft rfl, Stage.order_eq]
  refine ⟨List.append_ne_nil_of_right_ne_nil _ (List.cons_ne_nil _ _), whole ▸ List.prefix_rfl,
    fun _ _ => whole, fun operation member reaches => ?_,
    fun most stopped => absurd stopped (unexpired most)⟩
  rcases List.mem_append.mp member with before | entering
  · obtain ⟨s, inside, belongs⟩ := passes.asked operation before reaches
    exact ⟨s, List.mem_append_left _ (entered ▸ inside), belongs⟩
  · rw [List.mem_singleton.mp entering] at reaches
    cases reaches

end Endings

theorem findings_observes (a : Auditor σ) (request : Request) (limit : Option Nat)
    (outside : σ) :
    a.Observes request ((a.findings request).start limit outside)
      ((a.findings request).performed limit { outside }) := by
  obtain ⟨passed, passes⟩ := a.walk_passes request .decompose a.blank limit { outside }
  simp only [findings, Session.start, Session.resume_bind, Session.performed_bind]
  rcases ran : (a.walk request .decompose a.blank).resume limit { outside } with ⟨halt | draft, q⟩
  · rw [ran] at passes
    rw [List.append_nil]
    exact passes.observes rfl
  · rw [ran] at passes
    simp only [Session.resume_enter]
    cases draft.assessment with
    | none => exact passes.observes_done rfl fun _ stopped => (by cases stopped)
    | some assessment => exact passes.observes_done rfl fun _ stopped => (by cases stopped)

theorem Observes.last {result : Except Halt Findings × Progress σ}
    {performed : List (Operation σ)} (observes : a.Observes request result performed) :
    result.2.entered.getLast? = some result.2.running := by
  rw [Progress.running, List.getLast?_eq_some_getLast observes.begun]
  rfl

theorem Observes.nodup {result : Except Halt Findings × Progress σ}
    {performed : List (Operation σ)} (observes : a.Observes request result performed) :
    result.2.entered.Nodup :=
  (Stage.nodup_order _).sublist observes.inOrder.sublist

theorem Observes.length_steps_le {result : Except Halt Findings × Progress σ}
    {performed : List (Operation σ)} (observes : a.Observes request result performed) :
    (result.2.entered.filter (· ≠ .done)).length ≤ 4 := by
  refine Nat.le_trans (observes.inOrder.sublist.filter _).length_le ?_
  cases a.retriever.isSome <;> decide

theorem audit_eq (a : Auditor σ) (limit : Option Nat) (request : Request) (outside : σ) :
    a.audit limit request outside =
      (reportOf request ((a.findings request).start limit outside).1
        ((a.findings request).start limit outside).2,
        ((a.findings request).start limit outside).2) := rfl

/-- Without a limit the stages end with findings, or one of them is refused its call. -/
theorem findings_start (a : Auditor σ) (request : Request) (outside : σ) :
    (∃ findings r, (a.findings request).start none outside = (.ok findings, r)) ∨
    ∃ stage error r, (a.findings request).start none outside = (.error (.failed error), r) ∧
      r.running = stage ∧ a.Refused request outside stage error r.exchanges := by
  have started : a.Reached request outside .decompose a.blank { outside } := .decompose rfl rfl
  simp only [Session.start, findings, Session.resume_bind]
  obtain ⟨final, q, ran, reached⟩ | ⟨stage, error, q, ran, running, refused⟩ :=
    resume_walk started
  · rw [ran]
    cases reached with
    | done => exact .inl ⟨_, _, rfl⟩
  · rw [ran]
    exact .inr ⟨stage, error, q, rfl, running, refused⟩

theorem Refused.stage_eq {outside : σ} {error : Error} {exchanges : List Exchange}
    (refused : a.Refused request outside stage error exchanges) :
    stage = .decompose ∨ stage = .retrieve := by
  cases refused with
  | decompose => exact .inl rfl
  | retrieve => exact .inr rfl

theorem ofError_eq (requestId : String) (running : Stage) (error : Error) :
    (∀ blamed message, error = .staged blamed message →
      Failure.ofError requestId running error = ⟨requestId, blamed, message⟩) ∧
    ((∀ blamed message, error ≠ .staged blamed message) →
      Failure.ofError requestId running error = ⟨requestId, running, error.message⟩) := by
  constructor
  · rintro blamed message rfl
    rfl
  · intro unblamed
    cases error with
    | staged blamed message => exact absurd rfl (unblamed blamed message)
    | api | model | embedding | vectorStore | storage | serialization | configuration | timeout
    | notFound | internal => rfl

/-- An audit enters its stages in order, each once, and all of them exactly when it is
completed; before the last there are at most four. All that it asks belongs to a stage it
entered. It fails in one of the first two stages, by the error of that stage's call, with
nothing asked that belongs to a later one. -/
theorem audit_in_order (a : Auditor σ) (request : Request) (outside : σ) :
    (a.audit none request outside).2.entered <+: Stage.order a.retriever.isSome ∧
    (a.audit none request outside).2.entered.Nodup ∧
    ((a.audit none request outside).2.entered = Stage.order a.retriever.isSome ↔
      (a.audit none request outside).1.isCompleted = true) ∧
    ((a.audit none request outside).2.entered.filter (· ≠ .done)).length ≤ 4 ∧
    (∀ operation ∈ (a.findings request).performed none { outside }, operation.outward = true →
      ∃ s ∈ (a.audit none request outside).2.entered, a.Belongs request s operation) ∧
    ∀ failure, (a.audit none request outside).1 = .failed failure →
      ∃ stage error,
        (a.audit none request outside).2.entered.getLast? = some stage ∧
        (stage = .decompose ∨ stage = .retrieve) ∧
        a.Refused request outside stage error (a.audit none request outside).2.exchanges ∧
        (∀ later, later ∉ (a.audit none request outside).2.entered →
          ∀ operation ∈ (a.findings request).performed none { outside },
            ¬ a.Belongs request later operation) ∧
        (∀ blamed message, error = .staged blamed message →
          failure = ⟨request.requestId, blamed, message⟩) ∧
        ((∀ blamed message, error ≠ .staged blamed message) →
          failure = ⟨request.requestId, stage, error.message⟩) := by
  have observes := a.findings_observes request none outside
  rw [audit_eq]
  obtain ⟨findings, r, ran⟩ | ⟨stage, error, r, ran, running, refused⟩ :=
    a.findings_start request outside
  · rw [ran] at observes ⊢
    have whole := observes.complete findings rfl
    refine ⟨observes.inOrder, observes.nodup, ⟨fun _ => rfl, fun _ => whole⟩,
      observes.length_steps_le, observes.asked, fun failure failed => (nomatch failed)⟩
  · rw [ran] at observes ⊢
    have last : r.entered.getLast? = some stage := running ▸ observes.last
    have unfinished : r.entered ≠ Stage.order a.retriever.isSome := by
      intro whole
      rw [whole, Stage.order_eq, List.getLast?_concat, Option.some.injEq] at last
      subst last
      rcases refused.stage_eq with first | second
      · cases first
      · cases second
    refine ⟨observes.inOrder, observes.nodup, ⟨fun whole => absurd whole unfinished,
      fun completed => (nomatch completed)⟩, observes.length_steps_le, observes.asked, ?_⟩
    rintro failure failed
    cases failed
    refine ⟨stage, error, last, refused.stage_eq, refused, ?_, ?_⟩
    · intro later unseen operation member belongs
      obtain ⟨s, seen, own⟩ := observes.asked operation member belongs.outward
      exact unseen (belongs.unique own ▸ seen)
    · simp only [Halt.blamed, running]
      exact ofError_eq request.requestId stage error

end Auditor

end ClaimAudit
