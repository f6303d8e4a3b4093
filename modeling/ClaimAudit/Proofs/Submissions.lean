import ClaimAudit.Backend.Scripted
import ClaimAudit.Proofs.Session
import ClaimAudit.Proofs.WriteOnce
import ClaimAudit.Service
import Mathlib.Data.List.Forall2
import Mathlib.Data.List.Nodup
import Mathlib.Logic.Relation

/-! Many submissions at once.

Audits that overlap take turns on what they share: each performs its operations in the
order of its program, and any other may come in between. What they share may also change
by itself, and time may pass. In whatever order all this happens, a submission that is
answered has put one record into the archive, under an identifier of its own, and there
the record stays as it is.
-/

set_option autoImplicit false

namespace ClaimAudit

variable {σ : Type}

/-- What is left of an audit, or how it ended, gives findings only about the request. -/
abbrev Concerns (request : Request) : Session σ Findings ⊕ Except Halt Findings → Prop :=
  Session.Promises fun findings => findings.requestId = request.requestId

theorem Auditor.concerns_findings (a : Auditor σ) (request : Request) :
    Concerns request (.inl (a.findings request)) := by
  refine (Session.Abides.all _).andThen fun draft => .perform trivial fun _ => ?_
  cases draft.assessment with
  | none => exact .fail _
  | some assessment => exact .done rfl

theorem Auditor.requestId_reportOf {request : Request} {outcome : Except Halt Findings}
    {p : Progress σ} (concerns : @Concerns σ request (.inr outcome)) :
    (reportOf request outcome p).requestId = request.requestId := by
  cases outcome with
  | ok findings => exact concerns findings rfl
  | error halt => rfl

namespace Record

theorem status_eq_completed_iff (r : Record) : r.status = .completed ↔ r.grade?.isSome = true := by
  cases h : r.report <;> simp [status, grade?, Report.isCompleted, Report.findings?, h]

theorem isSome_grade?_iff (r : Record) : r.grade?.isSome = true ↔ r.failedStage? = none := by
  cases h : r.report <;>
    simp [grade?, failedStage?, Report.findings?, Report.failedStage?, Report.failure?, h]

end Record

theorem Service.records_prefix_of_file {record : Record} {state next : Service.State σ}
    {answer : Except Error Submission}
    (filed : (Service.file record).run state = (answer, next)) :
    state.archive.records <+: next.archive.records := by
  rw [Service.run_file, Archive.insert] at filed
  cases taken : state.archive.get? record.auditId with
  | some other =>
    rw [taken] at filed
    cases filed
    exact List.prefix_rfl
  | none =>
    rw [taken] at filed
    cases filed
    exact List.prefix_append _ _

structure Ticket (σ : Type) where
  id : Uuid
  request : Request
  /-- What is left of its program, or how that ended. -/
  standing : Session σ Findings ⊕ Except Halt Findings
  /-- How far it has come; what is outside of it may have changed since. -/
  progress : Progress σ

/-- A service at work. -/
structure Traffic (σ : Type) where
  state : Service.State σ
  /-- The identifiers that were given out. -/
  drawn : List Uuid := []
  waiting : List (Ticket σ) := []
  /-- The submissions that were answered, in their order, with the answers. -/
  answered : List (Request × Except Error Submission) := []

namespace Traffic

def start (outside : σ) : Traffic σ := { state := { outside } }

/-- What can happen next. A fresh identifier is one that was not given out before. -/
inductive Step (s : Service σ) (t : Traffic σ) : Traffic σ → Prop where
  | accept (id : Uuid) (request : Request) (fresh : id ∉ t.drawn) :
      Step s t { t with
        drawn := id :: t.drawn
        waiting :=
          ⟨id, request, .inl (s.auditor.findings request), { outside := t.state.outside }⟩ ::
            t.waiting }
  /-- An audit performs its next operation. -/
  | advance {before after : List (Ticket σ)} {ticket : Ticket σ} {rest : Session σ Findings}
      {standing : Session σ Findings ⊕ Except Halt Findings} {p : Progress σ}
      (waits : t.waiting = before ++ ticket :: after) (unfinished : ticket.standing = .inl rest)
      (stepped : rest.step s.limit { ticket.progress with outside := t.state.outside } =
        (standing, p)) :
      Step s t { t with
        state := { t.state with outside := p.outside }
        waiting := before ++ { ticket with standing, progress := p } :: after }
  /-- An audit that has ended is recorded, and its submission is answered. -/
  | answer {before after : List (Ticket σ)} (ticket : Ticket σ) {outcome : Except Halt Findings}
      {answer : Except Error Submission} {state : Service.State σ}
      (waits : t.waiting = before ++ ticket :: after) (ended : ticket.standing = .inr outcome)
      (now : Timestamp)
      (filed : (Service.file ⟨ticket.id, Auditor.reportOf ticket.request outcome ticket.progress,
        ticket.progress.clock, now⟩).run t.state = (answer, state)) :
      Step s t { t with
        state
        waiting := before ++ after
        answered := t.answered ++ [(ticket.request, answer)] }
  /-- A record is asked for. -/
  | lookUp (id : Uuid) : Step s t { t with state := ((Service.result id).run t.state).2 }
  /-- The limit passes, wherever in its program an audit is. -/
  | expire {before after : List (Ticket σ)} (ticket : Ticket σ) {rest : Session σ Findings}
      {limit : Nat} (waits : t.waiting = before ++ ticket :: after)
      (unfinished : ticket.standing = .inl rest) (limited : s.limit = some limit) :
      Step s t { t with
        waiting := before ++
          { ticket with standing := .inr (.error (.expired limit)) } :: after }
  /-- More time passes for an audit than it waits for. -/
  | linger {before after : List (Ticket σ)} {ticket : Ticket σ} {clock : Nat}
      (waits : t.waiting = before ++ ticket :: after) (later : ticket.progress.clock ≤ clock) :
      Step s t { t with
        waiting := before ++ { ticket with progress := { ticket.progress with clock } } :: after }
  /-- What audits work with changes by itself. -/
  | disturb (outside : σ) : Step s t { t with state := { t.state with outside } }

abbrev Leads (s : Service σ) : Traffic σ → Traffic σ → Prop := Relation.ReflTransGen (Step s)

/-- The record of an answered submission: its identifier and status are those of the
answer, and its report is about the request. -/
structure Files (answered : Request × Except Error Submission) (record : Record) : Prop where
  acknowledged : answered.2 = .ok ⟨record.auditId, record.status⟩
  requestId : record.report.requestId = answered.1.requestId

structure Sound (t : Traffic σ) : Prop where
  distinct : t.drawn.Nodup
  accounted :
    (t.waiting.map (·.id) ++ t.state.archive.records.map (·.auditId)).Perm t.drawn
  filed : List.Forall₂ Files t.answered t.state.archive.records
  own : ∀ ticket ∈ t.waiting, Concerns ticket.request ticket.standing

theorem sound_start (outside : σ) : (start outside).Sound :=
  ⟨List.nodup_nil, List.Perm.refl _, .nil, fun _ member => nomatch member⟩

variable {s : Service σ} {t u : Traffic σ}

theorem Sound.nodup (sound : t.Sound) :
    (t.waiting.map (·.id) ++ t.state.archive.records.map (·.auditId)).Nodup :=
  sound.accounted.nodup_iff.mpr sound.distinct

theorem Sound.fresh (sound : t.Sound) {ticket : Ticket σ} (member : ticket ∈ t.waiting) :
    t.state.archive.get? ticket.id = none := by
  rw [Archive.get?_eq_none_iff]
  exact fun filed => (List.nodup_append.mp sound.nodup).2.2 _ (List.mem_map_of_mem member) _ filed rfl

theorem Sound.replace (sound : t.Sound) {before after : List (Ticket σ)} {ticket : Ticket σ}
    (waits : t.waiting = before ++ ticket :: after) (outside : σ)
    {standing : Session σ Findings ⊕ Except Halt Findings} (p : Progress σ)
    (concerns : Concerns ticket.request standing) :
    Sound { t with
      state := { t.state with outside }
      waiting := before ++ { ticket with standing, progress := p } :: after } := by
  refine ⟨sound.distinct, ?_, sound.filed, ?_⟩
  · have accounted := sound.accounted
    rw [waits] at accounted
    simpa using accounted
  · intro other member
    rcases List.mem_append.mp member with earlier | later
    · exact sound.own other (waits ▸ List.mem_append_left _ earlier)
    · rcases List.mem_cons.mp later with rfl | behind
      · exact concerns
      · exact sound.own other (waits ▸ List.mem_append_right _ (List.mem_cons_of_mem _ behind))

theorem Sound.concerns (sound : t.Sound) {before after : List (Ticket σ)} {ticket : Ticket σ}
    (waits : t.waiting = before ++ ticket :: after) : Concerns ticket.request ticket.standing :=
  sound.own ticket (by simp [waits])

/-- An audit that is answered is no longer on its way but recorded. -/
theorem Sound.answered (sound : t.Sound) {before after : List (Ticket σ)} {ticket : Ticket σ}
    (waits : t.waiting = before ++ ticket :: after) (record : Record)
    (same : record.auditId = ticket.id) {answer : Except Error Submission}
    (files : Files (ticket.request, answer) record) (outside : σ) :
    Sound { t with
      state := { outside, archive := ⟨t.state.archive.records ++ [record]⟩ }
      waiting := before ++ after
      answered := t.answered ++ [(ticket.request, answer)] } := by
  refine ⟨sound.distinct, ?_, List.rel_append sound.filed (.cons files .nil), ?_⟩
  · refine List.Perm.trans ?_ sound.accounted
    simp only [waits, List.map_append, List.map_cons, List.map_nil, List.append_assoc,
      List.cons_append, same]
    rw [← List.append_assoc (after.map _)]
    exact (List.perm_append_singleton _ _).append_left _
  · intro other member
    refine sound.own other ?_
    rw [waits]
    rcases List.mem_append.mp member with earlier | later
    · exact List.mem_append_left _ earlier
    · exact List.mem_append_right _ (List.mem_cons_of_mem _ later)

theorem Sound.step (sound : t.Sound) (step : Step s t u) : u.Sound := by
  cases step with
  | accept id request fresh =>
    refine ⟨List.nodup_cons.mpr ⟨fresh, sound.distinct⟩, sound.accounted.cons id, sound.filed, ?_⟩
    intro other member
    rcases List.mem_cons.mp member with rfl | earlier
    · exact s.auditor.concerns_findings request
    · exact sound.own other earlier
  | @advance before after ticket rest standing p waits unfinished stepped =>
    refine sound.replace waits p.outside p ?_
    have concerns := sound.concerns waits
    rw [unfinished] at concerns
    have kept := concerns.step s.limit { ticket.progress with outside := t.state.outside }
    rwa [stepped] at kept
  | @answer before after ticket outcome answer state waits ended now filed =>
    have concerns := sound.concerns waits
    rw [ended] at concerns
    rw [Service.run_file_of_fresh (sound.fresh (by simp [waits]))] at filed
    cases filed
    have about := Auditor.requestId_reportOf (p := ticket.progress) concerns
    exact sound.answered waits ⟨ticket.id, _, ticket.progress.clock, now⟩ rfl ⟨rfl, about⟩ _
  | lookUp id =>
    rw [Service.run_result_snd]
    exact sound
  | @expire before after ticket rest limit waits unfinished limited =>
    exact sound.replace waits t.state.outside _ nofun
  | @linger before after ticket clock waits later =>
    exact sound.replace waits t.state.outside _ (sound.concerns waits)
  | disturb outside => exact ⟨sound.distinct, sound.accounted, sound.filed, sound.own⟩

theorem Sound.leads (sound : t.Sound) (leads : Leads s t u) : u.Sound := by
  induction leads with
  | refl => exact sound
  | tail _ step ih => exact ih.step step

theorem Step.records_prefix (step : Step s t u) :
    t.state.archive.records <+: u.state.archive.records := by
  cases step with
  | accept | advance | expire | linger | disturb => exact List.prefix_rfl
  | @answer before after ticket outcome answer state waits ended now filed =>
    exact Service.records_prefix_of_file filed
  | lookUp id =>
    rw [Service.run_result_snd]

theorem Leads.records_prefix (leads : Leads s t u) :
    t.state.archive.records <+: u.state.archive.records := by
  induction leads with
  | refl => exact List.prefix_rfl
  | tail _ step ih => exact ih.trans step.records_prefix

theorem Sound.run_result (sound : t.Sound) {record : Record}
    (member : record ∈ t.state.archive.records) (leads : Leads s t u) :
    (Service.result record.auditId).run u.state = (.ok record, u.state) := by
  have distinct := (List.nodup_append.mp (sound.leads leads).nodup).2.1
  have found := Archive.get?_eq_some distinct (leads.records_prefix.subset member)
  rw [Service.run_result, found]

/-- Audits take turns, but they need not: one of them can go on to its end alone. -/
theorem leads_ended (t : Traffic σ) {before after : List (Ticket σ)} (ticket : Ticket σ)
    {rest : Session σ Findings} (waits : t.waiting = before ++ ticket :: after)
    (unfinished : ticket.standing = .inl rest) {outcome : Except Halt Findings} {q : Progress σ}
    (ran : rest.resume s.limit { ticket.progress with outside := t.state.outside } =
      (outcome, q)) :
    Leads s t { t with
      state := { t.state with outside := q.outside }
      waiting := before ++ { ticket with standing := .inr outcome, progress := q } :: after } := by
  -- Each operation changes what is shared and the ticket, so both are general in the induction.
  induction rest generalizing t ticket with
  | done findings =>
    cases ran
    exact .single (.advance waits unfinished rfl)
  | fail error =>
    cases ran
    exact .single (.advance waits unfinished rfl)
  | perform operation next ih =>
    rw [Session.resume_eq_step] at ran
    cases replied : operation.run s.limit { ticket.progress with outside := t.state.outside } with
    | mk reply p =>
      cases reply with
      | error halt =>
        have stepped : (Session.perform operation next).step s.limit
            { ticket.progress with outside := t.state.outside } = (.inr (.error halt), p) := by
          simp only [Session.step, replied]
        rw [stepped] at ran
        cases ran
        exact .single (.advance waits unfinished stepped)
      | ok answer =>
        have stepped : (Session.perform operation next).step s.limit
            { ticket.progress with outside := t.state.outside } = (.inl (next answer), p) := by
          simp only [Session.step, replied]
        rw [stepped] at ran
        exact .head (.advance waits unfinished stepped)
          (ih answer _ { ticket with standing := .inl (next answer), progress := p } rfl rfl ran)

theorem leads_filed (t : Traffic σ) {before after : List (Ticket σ)} (ticket : Ticket σ)
    {rest : Session σ Findings} (waits : t.waiting = before ++ ticket :: after)
    (unfinished : ticket.standing = .inl rest) {outcome : Except Halt Findings} {q : Progress σ}
    (ran : rest.resume s.limit { ticket.progress with outside := t.state.outside } =
      (outcome, q))
    (now : Timestamp) {answer : Except Error Submission} {state : Service.State σ}
    (filed : (Service.file ⟨ticket.id, Auditor.reportOf ticket.request outcome q, q.clock,
      now⟩).run { t.state with outside := q.outside } = (answer, state)) :
    Leads s t { t with
      state
      waiting := before ++ after
      answered := t.answered ++ [(ticket.request, answer)] } :=
  (leads_ended t ticket waits unfinished ran).tail
    (.answer { ticket with standing := .inr outcome, progress := q } rfl rfl now filed)

/-- Every audit on its way can be brought to its answer, and that is a success. -/
theorem Sound.leads_answered (sound : t.Sound) {before after : List (Ticket σ)}
    {ticket : Ticket σ} (waits : t.waiting = before ++ ticket :: after) (now : Timestamp) :
    ∃ u record, Leads s t u ∧ u.waiting = before ++ after ∧
      record.auditId = ticket.id ∧ record.createdAt = now ∧
      u.state.archive.records = t.state.archive.records ++ [record] ∧
      u.answered = t.answered ++ [(ticket.request, .ok ⟨ticket.id, record.status⟩)] := by
  have fresh : t.state.archive.get? ticket.id = none := sound.fresh (by simp [waits])
  -- Running the rest of the program changes what is outside, but not the archive.
  have written (outside : σ) (report : Report) (clock : Nat) :
      (Service.file ⟨ticket.id, report, clock, now⟩).run { t.state with outside } =
        (.ok ⟨ticket.id, Record.status ⟨ticket.id, report, clock, now⟩⟩,
          { outside
            archive := ⟨t.state.archive.records ++ [⟨ticket.id, report, clock, now⟩]⟩ }) :=
    Service.run_file_of_fresh fresh
  cases standing : ticket.standing with
  | inr outcome =>
    exact ⟨_, _, .single (.answer ticket waits standing now (written _ _ _)), rfl, rfl, rfl, rfl, rfl⟩
  | inl rest =>
    exact ⟨_, _, leads_filed t ticket waits standing rfl now (written _ _ _), rfl, rfl, rfl, rfl, rfl⟩

theorem leads_submit (s : Service σ) (t : Traffic σ) {id : Uuid} (fresh : id ∉ t.drawn)
    (now : Timestamp) (request : Request) :
    Leads s t {
      state := ((s.submit id now request).run t.state).2
      drawn := id :: t.drawn
      waiting := t.waiting
      answered := t.answered ++ [(request, ((s.submit id now request).run t.state).1)] } := by
  obtain ⟨outcome, q, ran⟩ : ∃ outcome q,
      (s.auditor.findings request).start s.limit t.state.outside = (outcome, q) := ⟨_, _, rfl⟩
  have audited : s.auditor.audit s.limit request t.state.outside =
      (Auditor.reportOf request outcome q, q) := by rw [Auditor.audit, ran]
  cases submitted : (s.submit id now request).run t.state with
  | mk answer state =>
    rw [Service.run_submit, audited] at submitted
    -- From its acceptance on, the new ticket is the only one that moves.
    let ticket : Ticket σ :=
      ⟨id, request, .inl (s.auditor.findings request), { outside := t.state.outside }⟩
    let accepted : Traffic σ := { t with drawn := id :: t.drawn, waiting := ticket :: t.waiting }
    have waits : accepted.waiting = [] ++ ticket :: t.waiting := rfl
    exact .head (.accept id request fresh) (leads_filed accepted ticket waits rfl ran now submitted)

/-- In whatever order overlapping submissions, look-ups and all else take place, the
submissions that were answered and the records are in one-to-one correspondence. Every
answer is a success, with the identifier and the status of its record; the record is about
the request, has a grade exactly when it is completed and a failed stage exactly when it is
not, and is found from then on. Any other identifier is not found. No submission is ever
stuck, and one that nothing comes in between does what it does alone. -/
theorem answered_submissions_recorded (s : Service σ) (outside : σ) {t : Traffic σ}
    (reached : Leads s (start outside) t) :
    t.state.archive.size = t.answered.length ∧
    (t.state.archive.records.map (·.auditId)).Nodup ∧
    List.Forall₂ (fun answered record =>
      answered.2 = .ok ⟨record.auditId, record.status⟩ ∧
      record.report.requestId = answered.1.requestId ∧
      (record.status = .completed ↔ record.grade?.isSome = true) ∧
      (record.grade?.isSome = true ↔ record.failedStage? = none) ∧
      ∀ u, Leads s t u → (Service.result record.auditId).run u.state = (.ok record, u.state))
      t.answered t.state.archive.records ∧
    (∀ id, (∀ answered ∈ t.answered, ∀ status, answered.2 ≠ .ok ⟨id, status⟩) →
      (Service.result id).run t.state =
        (.error (.notFound s!"Audit {id.toString} not found"), t.state)) ∧
    (∀ ticket ∈ t.waiting, ∀ now, ∃ u record, Leads s t u ∧
      record.auditId = ticket.id ∧ record.createdAt = now ∧
      u.state.archive.records = t.state.archive.records ++ [record] ∧
      u.answered = t.answered ++ [(ticket.request, .ok ⟨ticket.id, record.status⟩)]) ∧
    ∀ id, id ∉ t.drawn → ∀ now request, Leads s t {
      state := ((s.submit id now request).run t.state).2
      drawn := id :: t.drawn
      waiting := t.waiting
      answered := t.answered ++ [(request, ((s.submit id now request).run t.state).1)] } := by
  have sound := (sound_start outside).leads reached
  refine ⟨sound.filed.length_eq.symm, (List.nodup_append.mp sound.nodup).2.1, ?_, ?_, ?_,
    fun id fresh now request => leads_submit s t fresh now request⟩
  · refine List.forall₂_iff_get.mpr ⟨sound.filed.length_eq, fun i left right => ?_⟩
    have files := (List.forall₂_iff_get.mp sound.filed).2 i left right
    exact ⟨files.acknowledged, files.requestId, Record.status_eq_completed_iff _,
      Record.isSome_grade?_iff _, fun u leads => sound.run_result (List.get_mem _ _) leads⟩
  · intro id unanswered
    have absent : t.state.archive.get? id = none := by
      rw [Archive.get?_eq_none_iff]
      -- A record would be that of an answer with its identifier.
      intro member
      obtain ⟨record, written, rfl⟩ := List.mem_map.mp member
      obtain ⟨i, right, rfl⟩ := List.mem_iff_getElem.mp written
      have left : i < t.answered.length := sound.filed.length_eq ▸ right
      have files := (List.forall₂_iff_get.mp sound.filed).2 i left right
      exact unanswered _ (List.get_mem _ _) _ files.acknowledged
    rw [Service.run_result, absent]
  · intro ticket member now
    obtain ⟨before, after, waits⟩ := List.append_of_mem member
    obtain ⟨u, record, leads, _, filed⟩ := sound.leads_answered waits now
    exact ⟨u, record, leads, filed⟩

/-- Two submissions of one request overlap, and the second is the first to be recorded. -/
theorem answered_submissions_recorded_overlapping :
    let s : Service Backend.Script.Tape := { auditor := { client := ({} : Backend.Script).client } }
    ∃ (t : Traffic Backend.Script.Tape) (late early : Record), Leads s (start {}) t ∧
      t.state.archive.records = [late, early] ∧ early.auditId = ⟨1⟩ ∧ late.auditId = ⟨2⟩ ∧
      early.report.requestId = "one" ∧ late.report.requestId = "one" ∧
      t.answered.map (·.2) = [.ok ⟨⟨2⟩, late.status⟩, .ok ⟨⟨1⟩, early.status⟩] := by
  intro s
  let request : Request := ⟨"one", "Is water wet?", "Water is wet.", []⟩
  have first : Leads s (start {}) _ := .single (.accept ⟨1⟩ request (by decide))
  have both := first.tail (.accept ⟨2⟩ request (by decide))
  obtain ⟨u, late, leads, waits, second, _, recorded, answered⟩ :=
    ((sound_start _).leads both).leads_answered (s := s) (List.nil_append _).symm ⟨0, 0, 0⟩
  have sofar := both.trans leads
  obtain ⟨t, early, onward, _, one, _, whole, all⟩ :=
    ((sound_start _).leads sofar).leads_answered (s := s) waits ⟨0, 0, 0⟩
  have reached := sofar.trans onward
  obtain ⟨_, _, filed, _⟩ := answered_submissions_recorded s {} reached
  rw [recorded] at whole
  rw [answered] at all
  rw [whole, all] at filed
  cases filed with
  | cons head rest =>
    cases rest with
    | cons next _ =>
      refine ⟨t, late, early, reached, whole, one, second, next.2.1, head.2.1, ?_⟩
      rw [all]
      rfl

end Traffic

end ClaimAudit
