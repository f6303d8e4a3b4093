import ClaimAudit.Session
import Mathlib.Data.List.Infix

/-! Sessions in general.

What a program may do, and what it may return, is a property of the program that holds
whatever it is answered; its runs inherit it, and so does what is left of the program
after any of its operations. A run only adds to its progress. A limit makes no difference
to a run that stays within it, and stops every other run at the limit, when it has done
a part of what it does without one.
-/

set_option autoImplicit false

namespace ClaimAudit

variable {σ α β : Type}

structure Progress.Extends (q p : Progress σ) : Prop where
  clock : p.clock ≤ q.clock
  entered : p.entered <+: q.entered
  exchanges : p.exchanges <+: q.exchanges

namespace Progress.Extends

variable {p q r : Progress σ}

theorem refl (p : Progress σ) : p.Extends p :=
  ⟨Nat.le_refl _, List.prefix_rfl, List.prefix_rfl⟩

theorem trans (second : r.Extends q) (first : q.Extends p) : r.Extends p :=
  ⟨Nat.le_trans first.clock second.clock, first.entered.trans second.entered,
    first.exchanges.trans second.exchanges⟩

end Progress.Extends

namespace Operation

def outward : Operation σ → Bool
  | .attempt _ | .converse _ _ => true
  | .enter _ | .clock | .waitUntil _ => false

theorem run_extends (operation : Operation σ) (limit : Option Nat) (p : Progress σ) :
    (operation.run limit p).2.Extends p := by
  cases operation with
  | enter stage => exact ⟨Nat.le_refl _, List.prefix_append _ _, List.prefix_rfl⟩
  | clock => exact .refl p
  | waitUntil moment =>
    simp only [run]
    split
    · split <;> exact ⟨Nat.le_max_left _ _, List.prefix_rfl, List.prefix_rfl⟩
    · exact ⟨Nat.le_max_left _ _, List.prefix_rfl, List.prefix_rfl⟩
  | attempt action => exact ⟨Nat.le_refl _, List.prefix_rfl, List.prefix_rfl⟩
  | converse client request => exact ⟨Nat.le_refl _, List.prefix_rfl, List.prefix_append _ _⟩

/-- Nothing but a limit stops an operation. -/
theorem run_none (operation : Operation σ) (p : Progress σ) :
    ∃ answer q, operation.run none p = (.ok answer, q) := by
  cases operation <;> exact ⟨_, _, rfl⟩

/-- An operation that ends within the limit does not notice it. -/
theorem run_within (operation : Operation σ) {limit : Nat} {p : Progress σ}
    (inTime : (operation.run none p).2.clock ≤ limit) :
    operation.run (some limit) p = operation.run none p := by
  cases operation with
  | waitUntil moment =>
    have early : ¬ limit < moment := by
      simp only [run] at inTime
      omega
    simp only [run, early, if_false]
  | enter | clock | attempt | converse => rfl

/-- An operation that would end beyond the limit is stopped there, and does nothing. -/
theorem run_beyond (operation : Operation σ) {limit : Nat} {p : Progress σ}
    (started : p.clock ≤ limit) (late : limit < (operation.run none p).2.clock) :
    operation.run (some limit) p = (.error (.expired limit), { p with clock := limit }) := by
  cases operation with
  | waitUntil moment =>
    have beyond : limit < moment := by
      simp only [run] at late
      omega
    simp only [run, beyond, if_true, Nat.max_eq_right started]
  | enter | clock | attempt | converse => exact absurd late (Nat.not_lt.mpr started)

end Operation

namespace Session

/-- A program performs only some operations and returns only some answers. -/
inductive Abides (allowed : Operation σ → Prop) (returns : α → Prop) :
    Session σ α → Prop where
  | done {a : α} (good : returns a) : Abides allowed returns (.done a)
  | fail (error : Error) : Abides allowed returns (.fail error)
  | perform {operation : Operation σ} {next : operation.Answer → Session σ α}
      (permitted : allowed operation) (onward : ∀ answer, Abides allowed returns (next answer)) :
      Abides allowed returns (.perform operation next)

def performed : Session σ α → Option Nat → Progress σ → List (Operation σ)
  | .done _, _, _ => []
  | .fail _, _, _ => []
  | .perform operation next, limit, p =>
    operation ::
      match operation.run limit p with
      | (.ok answer, q) => (next answer).performed limit q
      | (.error _, _) => []

theorem performed_bind (session : Session σ α) (next : α → Session σ β) (limit : Option Nat)
    (p : Progress σ) :
    (session >>= next).performed limit p = session.performed limit p ++
      match session.resume limit p with
      | (.ok a, q) => (next a).performed limit q
      | (.error _, _) => [] := by
  change (session.bind next).performed limit p = _
  induction session generalizing p with
  | done a => rfl
  | fail error => rfl
  | perform operation rest ih =>
    simp only [bind, performed, resume, List.cons_append]
    cases operation.run limit p with
    | mk outcome q =>
      cases outcome with
      | ok answer => simp only [ih]
      | error halt => rfl

namespace Abides

variable {allowed : Operation σ → Prop} {returns : α → Prop}
  {session : Session σ α}

theorem all (session : Session σ α) : session.Abides (fun _ => True) fun _ => True := by
  induction session with
  | done a => exact .done trivial
  | fail error => exact .fail error
  | perform operation next ih => exact .perform trivial ih

theorem bind {good : β → Prop} {next : α → Session σ β} (first : session.Abides allowed returns)
    (rest : ∀ a, returns a → (next a).Abides allowed good) :
    (session >>= next).Abides allowed good := by
  change (session.bind next).Abides allowed good
  induction first with
  | done found => exact rest _ found
  | fail error => exact .fail error
  | perform permitted _ ih => exact .perform permitted ih

theorem andThen {good : β → Prop} {next : α → Session σ β}
    (first : session.Abides allowed fun _ => True) (rest : ∀ a, (next a).Abides allowed good) :
    (session >>= next).Abides allowed good :=
  first.bind fun a _ => rest a

theorem mapM {f : β → Session σ α} {items : List β}
    (each : ∀ item ∈ items, (f item).Abides allowed fun _ => True) :
    (items.mapM f).Abides allowed fun _ => True := by
  induction items with
  | nil => exact .done trivial
  | cons item items ih =>
    rw [List.mapM_cons]
    refine (each item List.mem_cons_self).andThen fun a => ?_
    exact (ih fun other member => each other (List.mem_cons_of_mem _ member)).andThen fun rest =>
      .done trivial

theorem returned (abides : session.Abides allowed returns) {limit : Option Nat}
    {p q : Progress σ} {a : α} (ran : session.resume limit p = (.ok a, q)) : returns a := by
  induction abides generalizing p with
  | done found =>
    cases ran
    exact found
  | fail error => cases ran
  | perform permitted onward ih =>
    simp only [resume] at ran
    split at ran
    · exact ih _ ran
    · cases ran

theorem of_mem_performed (abides : session.Abides allowed returns) {limit : Option Nat}
    {p : Progress σ} {operation : Operation σ}
    (member : operation ∈ session.performed limit p) : allowed operation := by
  induction abides generalizing p with
  | done => cases member
  | fail => cases member
  | perform permitted onward ih =>
    rw [performed] at member
    rcases List.mem_cons.mp member with rfl | later
    · exact permitted
    · split at later
      · exact ih _ later
      · cases later

/-- What each operation keeps, a run keeps. -/
theorem resume_keeps (abides : session.Abides allowed returns)
    (kept : Progress σ → Progress σ → Prop) (refl : ∀ p, kept p p)
    (trans : ∀ {p q r}, kept p q → kept q r → kept p r) (limit : Option Nat)
    (each : ∀ (operation : Operation σ) (p : Progress σ), allowed operation →
      kept p (operation.run limit p).2) (p : Progress σ) :
    kept p (session.resume limit p).2 := by
  induction abides generalizing p with
  | done => exact refl p
  | fail => exact refl p
  | @perform operation next permitted onward ih =>
    have first := each operation p permitted
    simp only [resume]
    cases ran : operation.run limit p with
    | mk outcome q =>
      rw [ran] at first
      cases outcome with
      | ok answer => exact trans first (ih answer q)
      | error halt => exact first

theorem waits_of_expired (abides : session.Abides allowed returns) {limit : Option Nat}
    {p q : Progress σ} {most : Nat} (stopped : session.resume limit p = (.error (.expired most), q)) :
    ∃ moment, allowed (.waitUntil moment) := by
  induction abides generalizing p with
  | done => cases stopped
  | fail => cases stopped
  | @perform operation next permitted onward ih =>
    simp only [resume] at stopped
    split at stopped
    · exact ih _ stopped
    · rename_i halted
      cases operation with
      | waitUntil moment => exact ⟨moment, permitted⟩
      | enter | clock | attempt | converse => cases halted

end Abides

def step : Session σ α → Option Nat → Progress σ → (Session σ α ⊕ Except Halt α) × Progress σ
  | .done a, _, p => (.inr (.ok a), p)
  | .fail error, _, p => (.inr (.error (.failed error)), p)
  | .perform operation next, limit, p =>
    match operation.run limit p with
    | (.ok answer, q) => (.inl (next answer), q)
    | (.error halt, q) => (.inr (.error halt), q)

theorem resume_eq_step (session : Session σ α) (limit : Option Nat) (p : Progress σ) :
    session.resume limit p =
      match session.step limit p with
      | (.inl rest, q) => rest.resume limit q
      | (.inr outcome, q) => (outcome, q) := by
  cases session with
  | done a => rfl
  | fail error => rfl
  | perform operation next =>
    simp only [resume, step]
    cases operation.run limit p with
    | mk outcome q => cases outcome <;> rfl

/-- What is left of a session, or how it ended, returns only some answers. -/
def Promises (returns : α → Prop) : Session σ α ⊕ Except Halt α → Prop
  | .inl rest => rest.Abides (fun _ => True) returns
  | .inr outcome => ∀ a, outcome = .ok a → returns a

theorem Abides.step {returns : α → Prop} {session : Session σ α}
    (abides : session.Abides (fun _ => True) returns) (limit : Option Nat) (p : Progress σ) :
    Promises returns (session.step limit p).1 := by
  cases abides with
  | done good =>
    intro a same
    cases same
    exact good
  | fail error => exact nofun
  | @perform operation next _ onward =>
    simp only [Session.step]
    cases operation.run limit p with
    | mk outcome q =>
      cases outcome with
      | ok answer => exact onward answer
      | error halt => exact nofun

variable (session : Session σ α)

theorem resume_extends (limit : Option Nat) (p : Progress σ) :
    (session.resume limit p).2.Extends p :=
  (Abides.all session).resume_keeps (fun p q => q.Extends p) Progress.Extends.refl
    (fun first second => second.trans first) limit
    (fun operation p _ => operation.run_extends limit p) p

/-- A run that stays within the limit does not notice it. -/
theorem resume_within {limit : Nat} {p : Progress σ}
    (inTime : (session.resume none p).2.clock ≤ limit) :
    session.resume (some limit) p = session.resume none p := by
  induction session generalizing p with
  | done a => rfl
  | fail error => rfl
  | perform operation next ih =>
    obtain ⟨answer, q, ran⟩ := operation.run_none p
    simp only [resume, ran] at inTime ⊢
    have early : (operation.run none p).2.clock ≤ limit := by
      rw [ran]
      exact Nat.le_trans ((next answer).resume_extends none q).clock inTime
    rw [operation.run_within early, ran]
    exact ih answer inTime

/-- A run that would take longer than the limit is stopped at the limit. All that it did
until then it does without the limit too. -/
theorem resume_beyond {limit : Nat} {p : Progress σ} (started : p.clock ≤ limit)
    (late : limit < (session.resume none p).2.clock) :
    ∃ q, session.resume (some limit) p = (.error (.expired limit), q) ∧ q.clock = limit ∧
      (session.resume none p).2.Extends q := by
  induction session generalizing p with
  | done a => exact absurd late (Nat.not_lt.mpr started)
  | fail error => exact absurd late (Nat.not_lt.mpr started)
  | perform operation next ih =>
    obtain ⟨answer, q, ran⟩ := operation.run_none p
    have whole : (perform operation next).resume none p = (next answer).resume none q := by
      simp only [resume, ran]
    rw [whole] at late ⊢
    rcases Nat.lt_or_ge limit q.clock with beyond | early
    · -- This operation is the wait that the limit interrupts.
      have stopped := operation.run_beyond started (by rwa [ran])
      refine ⟨{ p with clock := limit }, by simp only [resume, stopped], rfl, ?_⟩
      have first := operation.run_extends none p
      rw [ran] at first
      have rest := (next answer).resume_extends none q
      exact ⟨Nat.le_of_lt late, (rest.trans first).entered, (rest.trans first).exchanges⟩
    · have within : operation.run (some limit) p = (.ok answer, q) := by
        rw [operation.run_within (by rwa [ran]), ran]
      obtain ⟨r, stopped, clock, part⟩ := ih answer early late
      refine ⟨r, ?_, clock, part⟩
      simp only [resume, within]
      exact stopped

end Session

end ClaimAudit
