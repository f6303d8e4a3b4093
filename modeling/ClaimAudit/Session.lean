import ClaimAudit.Action
import ClaimAudit.Backend.Client

/-! One audit as it runs: what it has changed outside, how much time has passed, which
stages it has entered, and which completions it was given. A run may have a limit on
its time.

A session is a program of single operations, each of which may depend on the answers to
those before it. So a run can be followed from one operation to the next, and what every
run keeps is what every operation keeps. Each operation comes with the equation that
says what it does to the progress of a run; the equation of `>>=` puts them together.
-/

set_option autoImplicit false

namespace ClaimAudit

structure Progress (σ : Type) where
  /-- The condition of everything the audit works with. -/
  outside : σ
  /-- Milliseconds since the audit began. -/
  clock : Nat := 0
  /-- The stages entered so far, in order. -/
  entered : List Stage := []
  /-- The completions asked for and answered so far, in order. -/
  exchanges : List Exchange := []

def Progress.running {σ : Type} (p : Progress σ) : Stage := p.entered.getLast?.getD .decompose

inductive Halt where
  | failed (error : Error)
  /-- The limit passed, in milliseconds. -/
  | expired (limit : Nat)
  deriving DecidableEq, Repr

def Halt.error : Halt → Error
  | .failed error => error
  | .expired limit => .timeout limit

/-- The error of a halted audit. A limit that passed is blamed on the stage that was running. -/
def Halt.blamed (running : Stage) : Halt → Error
  | .failed error => error
  | .expired limit => (Halt.expired limit).error.atStage running

inductive Operation (σ : Type) : Type 1 where
  | enter (stage : Stage)
  | clock
  /-- Let time pass up to a moment. A moment beyond the limit is never reached. -/
  | waitUntil (moment : Nat)
  /-- Run an action; its failure is an answer like any other. -/
  | attempt {α : Type} (action : Action σ α)
  /-- Take the answer of the backend to a request whose time has come. -/
  | converse (client : Client σ) (request : CompletionRequest)

namespace Operation

variable {σ : Type}

abbrev Answer : Operation σ → Type
  | .enter _ | .waitUntil _ => Unit
  | .clock => Nat
  | @attempt _ α _ => Except Error α
  | .converse _ _ => Except Error Completion

def run (limit : Option Nat) (p : Progress σ) :
    (operation : Operation σ) → Except Halt operation.Answer × Progress σ
  | .enter stage => (.ok (), { p with entered := p.entered ++ [stage] })
  | .clock => (.ok p.clock, p)
  | .waitUntil moment =>
    match limit with
    | some most =>
      if most < moment then (.error (.expired most), { p with clock := max p.clock most })
      else (.ok (), { p with clock := max p.clock moment })
    | none => (.ok (), { p with clock := max p.clock moment })
  | .attempt action =>
    let (result, outside) := action.run p.outside
    (.ok result, { p with outside })
  | .converse client request =>
    let (reply, outside) := (client.complete request).run p.outside
    (.ok reply, { p with outside, exchanges := p.exchanges ++ [⟨request, reply⟩] })

end Operation

inductive Session (σ α : Type) : Type 1 where
  | done (a : α)
  | fail (error : Error)
  | perform (operation : Operation σ) (next : operation.Answer → Session σ α)

namespace Session

variable {σ α β : Type}

def bind : Session σ α → (α → Session σ β) → Session σ β
  | .done a, next => next a
  | .fail error, _ => .fail error
  | .perform operation rest, next => .perform operation fun answer => (rest answer).bind next

instance : Monad (Session σ) where
  pure := .done
  bind := Session.bind

theorem bind_done (session : Session σ α) : session.bind .done = session := by
  induction session with
  | done a => rfl
  | fail error => rfl
  | perform operation next ih => simp only [bind, ih]

theorem bind_bind {γ : Type} (session : Session σ α) (first : α → Session σ β)
    (second : β → Session σ γ) :
    (session.bind first).bind second = session.bind fun a => (first a).bind second := by
  induction session with
  | done a => rfl
  | fail error => rfl
  | perform operation next ih => simp only [bind, ih]

instance : LawfulMonad (Session σ) :=
  LawfulMonad.mk' _ bind_done (fun _ _ => rfl) bind_bind

/-- Run a session from some progress on. -/
def resume : Session σ α → Option Nat → Progress σ → Except Halt α × Progress σ
  | .done a, _, p => (.ok a, p)
  | .fail error, _, p => (.error (.failed error), p)
  | .perform operation next, limit, p =>
    match operation.run limit p with
    | (.ok answer, q) => (next answer).resume limit q
    | (.error halt, q) => (.error halt, q)

def start (session : Session σ α) (limit : Option Nat) (outside : σ) :
    Except Halt α × Progress σ :=
  session.resume limit { outside }

def enter (stage : Stage) : Session σ Unit := .perform (.enter stage) .done

def clock : Session σ Nat := .perform .clock .done

def waitUntil (moment : Nat) : Session σ Unit := .perform (.waitUntil moment) .done

def wait (milliseconds : Nat) : Session σ Unit := do
  waitUntil ((← clock) + milliseconds)

def attempt (action : Action σ α) : Session σ (Except Error α) := .perform (.attempt action) .done

def call (action : Action σ α) : Session σ α := do
  match ← attempt action with
  | .ok a => return a
  | .error error => .fail error

def converse (client : Client σ) (request : CompletionRequest) :
    Session σ (Except Error Completion) := .perform (.converse client request) .done

def ask (client : Client σ) (request : CompletionRequest) :
    Session σ (Except Error Completion) := do
  wait (client.delay request)
  converse client request

section Resume

variable (limit : Option Nat) (p : Progress σ)

@[simp] theorem resume_pure (a : α) : (pure a : Session σ α).resume limit p = (.ok a, p) := rfl

@[simp] theorem resume_bind (session : Session σ α) (next : α → Session σ β) :
    (session >>= next).resume limit p =
      match session.resume limit p with
      | (.ok a, q) => (next a).resume limit q
      | (.error halt, q) => (.error halt, q) := by
  change (session.bind next).resume limit p = _
  induction session generalizing p with
  | done a => rfl
  | fail error => rfl
  | perform operation rest ih =>
    simp only [bind, resume]
    cases operation.run limit p with
    | mk outcome q =>
      cases outcome with
      | ok answer => exact ih answer q
      | error halt => rfl

@[simp] theorem resume_enter (stage : Stage) :
    (enter stage : Session σ Unit).resume limit p =
      (.ok (), { p with entered := p.entered ++ [stage] }) := rfl

@[simp] theorem resume_clock : (clock : Session σ Nat).resume limit p = (.ok p.clock, p) := rfl

theorem resume_waitUntil (moment : Nat) :
    (waitUntil moment : Session σ Unit).resume limit p =
      match limit with
      | some most =>
        if most < moment then (.error (.expired most), { p with clock := max p.clock most })
        else (.ok (), { p with clock := max p.clock moment })
      | none => (.ok (), { p with clock := max p.clock moment }) := by
  cases limit with
  | none => rfl
  | some most => by_cases late : most < moment <;> simp [waitUntil, resume, Operation.run, late]

@[simp] theorem resume_attempt (action : Action σ α) :
    (attempt action).resume limit p =
      (.ok (action.run p.outside).1, { p with outside := (action.run p.outside).2 }) := rfl

theorem resume_call (action : Action σ α) :
    (call action).resume limit p =
      ((action.run p.outside).1.mapError .failed,
        { p with outside := (action.run p.outside).2 }) := by
  simp only [call, resume_bind, resume_attempt]
  cases (action.run p.outside).1 <;> rfl

theorem resume_call_bind (first : Action σ α) (next : α → Action σ β) :
    (call (first >>= next)).resume limit p =
      (call first >>= fun a => call (next a)).resume limit p := by
  simp only [resume_bind, resume_call, Action.run_bind]
  cases first.run p.outside with
  | mk outcome s => cases outcome <;> rfl

theorem resume_call_mapM (action : β → Action σ α) (items : List β) :
    (call (items.mapM action)).resume limit p =
      (items.mapM fun item => call (action item)).resume limit p := by
  induction items generalizing p with
  | nil => rfl
  | cons item items ih =>
    simp only [List.mapM_cons, resume_call_bind, resume_bind, ih]
    rfl

@[simp] theorem resume_converse (client : Client σ) (request : CompletionRequest) :
    (converse client request).resume limit p =
      (.ok ((client.complete request).run p.outside).1,
        { p with
          outside := ((client.complete request).run p.outside).2
          exchanges := p.exchanges ++ [⟨request, ((client.complete request).run p.outside).1⟩] }) :=
  rfl

end Resume

theorem resume_wait (milliseconds : Nat) (p : Progress σ) :
    (wait milliseconds : Session σ Unit).resume none p =
      (.ok (), { p with clock := p.clock + milliseconds }) := by
  simp only [wait, resume_bind, resume_clock, resume_waitUntil]
  rw [Nat.max_eq_right (Nat.le_add_right _ _)]

theorem resume_ask (client : Client σ) (request : CompletionRequest) (p : Progress σ) :
    (ask client request).resume none p =
      (converse client request).resume none
        { p with clock := p.clock + client.delay request } := by
  simp only [ask, resume_bind, resume_wait]

end Session

end ClaimAudit
