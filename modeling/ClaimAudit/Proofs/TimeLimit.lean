import ClaimAudit.Proofs.StageOrder
import ClaimAudit.Service

/-! Audits under a limit on their time.

An audit is cut off exactly when it takes longer than its limit. What is recorded of an
audit that is not cut off does not depend on the limit. Of one that is cut off nothing
is recorded but the stage that was running and the limit that passed; the records that
were there before stay as they are.
-/

set_option autoImplicit false

namespace ClaimAudit

variable {σ : Type}

namespace Auditor

/-- The limit passes before the audit has ended. -/
def CutOff (a : Auditor σ) (request : Request) (limit : Nat) (outside : σ) : Prop :=
  ((a.findings request).start (some limit) outside).1 = .error (.expired limit)

variable {a : Auditor σ} {request : Request} {limit : Nat} {outside : σ}

theorem findings_start_ne_expired (a : Auditor σ) (request : Request) (outside : σ)
    (most : Nat) : ((a.findings request).start none outside).1 ≠ .error (.expired most) := by
  obtain ⟨findings, r, ran⟩ | ⟨stage, error, r, ran, _, _⟩ := a.findings_start request outside
  all_goals
    rw [ran]
    exact nofun

theorem cutOff_iff :
    a.CutOff request limit outside ↔ limit < (a.audit none request outside).2.clock := by
  constructor
  · intro cut
    -- Within the limit this would be the run without one, which no limit ends.
    by_contra late
    have same := (a.findings request).resume_within (Nat.le_of_not_lt late)
    rw [CutOff, Session.start, same] at cut
    exact a.findings_start_ne_expired request outside limit cut
  · intro late
    obtain ⟨q, stopped, _, _⟩ := (a.findings request).resume_beyond (Nat.zero_le limit) late
    rw [CutOff, Session.start, stopped]

/-- An audit that is not cut off does not notice the limit. -/
theorem audit_of_not_cutOff (within : ¬ a.CutOff request limit outside) :
    a.audit (some limit) request outside = a.audit none request outside := by
  rw [cutOff_iff, Nat.not_lt] at within
  have same := (a.findings request).resume_within within
  rw [audit_eq, Session.start, same]
  rfl

/-- An audit that is cut off leaves the stage that was running, which is one that waits for
an answer, and what it did until then is what it does without the limit. -/
theorem audit_of_cutOff (cut : a.CutOff request limit outside) :
    ∃ stage q, a.audit (some limit) request outside =
        (.failed ⟨request.requestId, stage, s!"Operation timed out after {limit}ms"⟩, q) ∧
      q.clock = limit ∧ q.entered.getLast? = some stage ∧ stage.asks = true ∧
      (a.audit none request outside).2.Extends q := by
  obtain ⟨q, stopped, clock, part⟩ :=
    (a.findings request).resume_beyond (Nat.zero_le limit) (cutOff_iff.mp cut)
  have observes := a.findings_observes request (some limit) outside
  rw [Session.start, stopped] at observes
  obtain ⟨stage, last, asks⟩ := observes.expired limit rfl
  refine ⟨stage, q, ?_, clock, last, asks, part⟩
  have running : q.running = stage := by rw [Progress.running, last, Option.getD_some]
  -- The stage is put on the error by one wrapper and taken off again by the other.
  rw [audit_eq, Session.start, stopped, reportOf, running]
  rfl

theorem extends_audit (a : Auditor σ) (limit : Option Nat) (request : Request) (outside : σ) :
    (a.audit none request outside).2.Extends (a.audit limit request outside).2 := by
  cases limit with
  | none => exact .refl _
  | some limit =>
    by_cases cut : a.CutOff request limit outside
    · obtain ⟨stage, q, audited, _, _, _, part⟩ := audit_of_cutOff cut
      rw [audited]
      exact part
    · rw [audit_of_not_cutOff cut]
      exact .refl _

theorem completed_of_limit {limit : Option Nat} {findings : Findings}
    (completed : (a.audit limit request outside).1 = .completed findings) :
    (a.audit none request outside).1 = .completed findings := by
  cases limit with
  | none => exact completed
  | some limit =>
    by_cases cut : a.CutOff request limit outside
    · obtain ⟨stage, q, audited, _⟩ := audit_of_cutOff cut
      rw [audited] at completed
      cases completed
    · rwa [audit_of_not_cutOff cut] at completed

end Auditor

namespace Service

/-- A submission under a fresh identifier appends one record. -/
theorem run_submit_of_fresh (s : Service σ) {id : Uuid} (now : Timestamp) (request : Request)
    {state : State σ} (fresh : state.archive.get? id = none) {report : Report} {p : Progress σ}
    (audited : s.auditor.audit s.limit request state.outside = (report, p)) :
    (s.submit id now request).run state =
      (.ok ⟨id, Record.status ⟨id, report, p.clock, now⟩⟩,
        { outside := p.outside
          archive := ⟨state.archive.records ++ [⟨id, report, p.clock, now⟩]⟩ }) := by
  rw [run_submit, audited]
  exact run_file_of_fresh fresh

/-- An audit is cut off exactly when it takes longer than its limit. If it is not, its
submission does the same under every greater limit and without one. If it is, one failure
is recorded, with the stage that was running and the limit that passed, and every other
identifier keeps its record. -/
theorem submit_under_limit (a : Auditor σ) (request : Request) (limit : Nat) (id : Uuid)
    (now : Timestamp) (state : State σ) (fresh : state.archive.get? id = none) :
    (a.CutOff request limit state.outside ↔
      limit < (a.audit none request state.outside).2.clock) ∧
    (¬ a.CutOff request limit state.outside → ∀ longer, limit ≤ longer →
      ¬ a.CutOff request longer state.outside ∧
      (Service.submit ⟨a, some longer⟩ id now request).run state =
        (Service.submit ⟨a, none⟩ id now request).run state ∧
      ∃ record : Record,
        ((Service.submit ⟨a, some longer⟩ id now request).run state).2.archive.records =
          state.archive.records ++ [record] ∧
        record.auditId = id ∧ record.report = (a.audit none request state.outside).1) ∧
    (a.CutOff request limit state.outside →
      ∃ stage after,
        (Service.submit ⟨a, some limit⟩ id now request).run state = (.ok ⟨id, .failed⟩, after) ∧
        after.archive.records = state.archive.records ++
          [⟨id, .failed ⟨request.requestId, stage, s!"Operation timed out after {limit}ms"⟩,
            limit, now⟩] ∧
        (∀ other, other ≠ id → after.archive.get? other = state.archive.get? other) ∧
        (a.audit (some limit) request state.outside).2.entered.getLast? = some stage ∧
        (a.audit (some limit) request state.outside).2.entered <+:
          (a.audit none request state.outside).2.entered ∧
        stage ≠ .score ∧ stage ≠ .done) := by
  refine ⟨Auditor.cutOff_iff, fun within longer most => ?_, fun cut => ?_⟩
  · have patient : ¬ a.CutOff request longer state.outside := by
      rw [Auditor.cutOff_iff] at within ⊢
      omega
    have same := Auditor.audit_of_not_cutOff patient
    have stored := run_submit_of_fresh ⟨a, some longer⟩ now request fresh same
    refine ⟨patient, ?_, _, by rw [stored], rfl, rfl⟩
    rw [stored, run_submit_of_fresh ⟨a, none⟩ now request fresh rfl]
  · obtain ⟨stage, q, audited, clock, last, asks, part⟩ := Auditor.audit_of_cutOff cut
    have stored := run_submit_of_fresh ⟨a, some limit⟩ now request fresh audited
    refine ⟨stage, _, stored, ?_, fun other different => ?_, ?_, ?_, ?_, ?_⟩
    · simp only [clock]
    · rw [Archive.get?_append, if_neg different.symm, Option.or_none]
    · rw [audited]
      exact last
    · rw [audited]
      exact part.entered
    · rintro rfl
      cases asks
    · rintro rfl
      cases asks

/-- A script whose replies take ten milliseconds each: the second, a judgment, comes after
the limit. -/
theorem submit_under_limit_second_reply :
    let a : Auditor Backend.Script.Tape :=
      { client := ({ delay := 10 } : Backend.Script).client }
    let request : Request := ⟨"one", "Is water wet?", "Water is wet.", []⟩
    let state : State Backend.Script.Tape := { outside := { replies := [.ok "Water is wet"] } }
    let id : Uuid := ⟨1⟩
    let now : Timestamp := ⟨0, 0, 0⟩
    state.archive.get? id = none ∧
      ∃ after, (Service.submit ⟨a, some 15⟩ id now request).run state = (.ok ⟨id, .failed⟩, after) ∧
        after.archive.records =
          [⟨id, .failed ⟨"one", .verify, "Operation timed out after 15ms"⟩, 15, now⟩] := by
  intro a request state id now
  have fresh : state.archive.get? id = none := rfl
  have cut : a.CutOff request 15 state.outside := by
    unfold Auditor.CutOff
    decide +kernel
  obtain ⟨stage, after, submitted, stored, _, last, _⟩ :=
    (submit_under_limit a request 15 id now state fresh).2.2 cut
  have running : stage = .verify := by
    have verifying : (a.audit (some 15) request state.outside).2.entered.getLast? = some .verify := by
      decide +kernel
    rw [verifying] at last
    exact (Option.some.inj last).symm
  subst running
  exact ⟨fresh, after, submitted, stored⟩

end Service

end ClaimAudit
