import ClaimAudit.Archive
import Mathlib.Data.List.Dedup
import Mathlib.Data.List.Induction
import Mathlib.Data.List.Nodup
import Mathlib.Logic.Relation

/-! An archive that tasks share.

Each task makes its calls one after the other, and may choose the next by the answers it had; the
calls of other tasks come in between. In whatever order the calls are served, the first record that
is written under an identifier stays, and every later one is refused without a trace. Which
identifiers have a record depends on the calls alone and not on their order.
-/

set_option autoImplicit false

namespace ClaimAudit.Archive

theorem get?_eq_some {a : Archive} {record : Record}
    (distinct : (a.records.map (·.auditId)).Nodup) (member : record ∈ a.records) :
    a.get? record.auditId = some record := by
  obtain ⟨found, same⟩ : ∃ found, a.get? record.auditId = some found :=
    Option.isSome_iff_exists.mp (List.find?_isSome.mpr ⟨record, member, by simp⟩)
  have id : found.auditId = record.auditId := by simpa using List.find?_some same
  rw [same, List.inj_on_of_nodup_map distinct (List.mem_of_find?_eq_some same) member id]

theorem get?_eq_none_iff {a : Archive} {id : Uuid} :
    a.get? id = none ↔ id ∉ a.records.map (·.auditId) := by
  simp [get?]

theorem mem_of_get? {a : Archive} {id : Uuid} {record : Record} (found : a.get? id = some record) :
    record ∈ a.records ∧ record.auditId = id :=
  ⟨List.mem_of_find?_eq_some found, by simpa using List.find?_some found⟩

theorem isSome_get?_iff {a : Archive} {id : Uuid} :
    (a.get? id).isSome = true ↔ id ∈ a.records.map (·.auditId) := by
  rw [← Option.isNone_eq_false_iff, Bool.eq_false_iff, ne_eq, Option.isNone_iff_eq_none,
    get?_eq_none_iff, not_not]

inductive Call where
  | insert (record : Record)
  | get (id : Uuid)
  | size
  | isEmpty

inductive Answer where
  | inserted (outcome : Except Error Unit)
  | found (record : Option Record)
  | counted (records : Nat)
  | empty (yes : Bool)

def serve (a : Archive) : Call → Answer × Archive
  | .insert record =>
    match a.insert record with
    | .ok next => (.inserted (.ok ()), next)
    | .error error => (.inserted (.error error), a)
  | .get id => (.found (a.get? id), a)
  | .size => (.counted a.size, a)
  | .isEmpty => (.empty a.isEmpty, a)

theorem serve_insert_of_fresh {a : Archive} {record : Record}
    (fresh : a.get? record.auditId = none) :
    a.serve (.insert record) = (.inserted (.ok ()), ⟨a.records ++ [record]⟩) := by
  rw [serve, insert_eq_ok record fresh]

theorem serve_insert_of_taken {a : Archive} {record other : Record}
    (taken : a.get? record.auditId = some other) :
    a.serve (.insert record) =
      (.inserted (.error (.internal s!"audit {record.auditId.toString} already recorded")), a) := by
  rw [serve, insert, taken]

abbrev Log := List (Call × Answer)

/-- A task. What it calls next may depend on what it was answered. -/
inductive Task where
  | done
  | call (call : Call) (next : Answer → Task)

structure Shared where
  archive : Archive := {}
  tasks : List Task
  log : Log := []

namespace Shared

def start (tasks : List Task) : Shared := { tasks }

inductive Step (s : Shared) : Shared → Prop where
  | serve {before after : List Task} {call : Call} {next : Answer → Task}
      (turn : s.tasks = before ++ .call call next :: after) :
      Step s {
        archive := (s.archive.serve call).2
        tasks := before ++ next (s.archive.serve call).1 :: after
        log := s.log ++ [(call, (s.archive.serve call).1)] }

abbrev Leads : Shared → Shared → Prop := Relation.ReflTransGen Step

end Shared

inductive Serves : Log → Archive → Prop where
  | start : Serves [] {}
  | serve {log : Log} {a : Archive} (served : Serves log a) (call : Call) :
      Serves (log ++ [(call, (a.serve call).1)]) (a.serve call).2

/-- Whoever makes the calls, the archive serves them one by one. -/
theorem Shared.Leads.serves {tasks : List Task} {s : Shared} (reached : Leads (start tasks) s) :
    Serves s.log s.archive := by
  induction reached with
  | refl => exact .start
  | tail _ step ih =>
    cases step with
    | serve turn => exact ih.serve _

def Wrote (log : Log) (record : Record) : Prop := (.insert record, .inserted (.ok ())) ∈ log

def First (log : Log) (id : Uuid) (record : Record) : Prop :=
  ∃ earlier later, log = earlier ++ (.insert record, .inserted (.ok ())) :: later ∧
    record.auditId = id ∧ ∀ other, Wrote earlier other → other.auditId ≠ id

def written (log : Log) : List Record :=
  log.filterMap fun
    | (.insert record, .inserted (.ok ())) => some record
    | _ => none

def Call.target? : Call → Option Uuid
  | .insert record => some record.auditId
  | .get _ | .size | .isEmpty => none

def targets (log : Log) : List Uuid := log.filterMap fun entry => entry.1.target?

/-- What a call is answered after the calls of a log. -/
def Answers (log : Log) : Call → Answer → Prop
  | .insert record, answer =>
    ((∀ other, Wrote log other → other.auditId ≠ record.auditId) ∧ answer = .inserted (.ok ())) ∨
    ((∃ other, Wrote log other ∧ other.auditId = record.auditId) ∧ answer =
      .inserted (.error (.internal s!"audit {record.auditId.toString} already recorded")))
  | .get id, answer =>
    ∃ found, answer = .found found ∧ ∀ record, found = some record ↔ First log id record
  | .size, answer =>
    answer = .counted (written log).length ∧ (written log).length = (targets log).dedup.length
  | .isEmpty, answer => ∃ yes, answer = .empty yes ∧ (yes = true ↔ ∀ record, ¬ Wrote log record)

theorem mem_written {log : Log} {record : Record} : record ∈ written log ↔ Wrote log record := by
  simp only [written, Wrote, List.mem_filterMap]
  constructor
  · rintro ⟨⟨call, answer⟩, member, kept⟩
    split at kept
    · cases kept
      rename_i same
      cases same
      exact member
    · cases kept
  · exact fun member => ⟨_, member, rfl⟩

theorem written_append (first second : Log) :
    written (first ++ second) = written first ++ written second :=
  List.filterMap_append

theorem mem_targets_concat {log : Log} {call : Call} {answer : Answer} {id : Uuid} :
    id ∈ targets (log ++ [(call, answer)]) ↔ id ∈ targets log ∨ call.target? = some id := by
  simp [targets]

/-- What an archive keeps of the calls that it served. -/
structure Keeps (log : Log) (a : Archive) : Prop where
  records : a.records = written log
  distinct : (a.records.map (·.auditId)).Nodup
  tried : ∀ id, id ∈ a.records.map (·.auditId) ↔ id ∈ targets log

section Keeps

variable {log : Log} {a : Archive}

theorem Keeps.mem_records_iff (keeps : Keeps log a) {record : Record} :
    record ∈ a.records ↔ Wrote log record := by
  rw [keeps.records, mem_written]

theorem Keeps.get?_eq_none_iff (keeps : Keeps log a) {id : Uuid} :
    a.get? id = none ↔ ∀ other, Wrote log other → other.auditId ≠ id := by
  simp only [Archive.get?_eq_none_iff, List.mem_map, not_exists, not_and, keeps.mem_records_iff,
    ne_eq]

theorem Keeps.get?_eq_some_iff (keeps : Keeps log a) {id : Uuid} {record : Record} :
    a.get? id = some record ↔ First log id record := by
  constructor
  · intro found
    obtain ⟨member, rfl⟩ := mem_of_get? found
    obtain ⟨earlier, later, rfl⟩ := List.append_of_mem (keeps.mem_records_iff.mp member)
    refine ⟨earlier, later, rfl, rfl, fun other wrote same => ?_⟩
    -- Two records of one identifier would both be kept.
    have distinct := keeps.distinct
    rw [keeps.records, written_append, List.map_append, List.nodup_append] at distinct
    exact distinct.2.2 _ (List.mem_map_of_mem (mem_written.mpr wrote)) _
      (List.mem_map_of_mem (mem_written.mpr List.mem_cons_self)) same
  · rintro ⟨earlier, later, rfl, rfl, _⟩
    exact get?_eq_some keeps.distinct (keeps.mem_records_iff.mpr (by simp [Wrote]))

theorem Keeps.length_dedup_targets (keeps : Keeps log a) :
    (targets log).dedup.length = a.records.length := by
  have same : (targets log).dedup.Perm (a.records.map (·.auditId)) :=
    (List.perm_ext_iff_of_nodup (List.nodup_dedup _) keeps.distinct).mpr fun id => by
      rw [List.mem_dedup, keeps.tried]
  rw [same.length_eq, List.length_map]

theorem Keeps.answers (keeps : Keeps log a) (call : Call) :
    Answers log call (a.serve call).1 := by
  cases call with
  | insert record =>
    cases taken : a.get? record.auditId with
    | none =>
      rw [serve_insert_of_fresh taken]
      exact .inl ⟨keeps.get?_eq_none_iff.mp taken, rfl⟩
    | some other =>
      rw [serve_insert_of_taken taken]
      obtain ⟨member, same⟩ := mem_of_get? taken
      exact .inr ⟨⟨other, keeps.mem_records_iff.mp member, same⟩, rfl⟩
  | get id => exact ⟨_, rfl, fun record => keeps.get?_eq_some_iff⟩
  | size =>
    refine ⟨?_, ?_⟩
    · show Answer.counted a.records.length = _
      rw [keeps.records]
    · rw [keeps.length_dedup_targets, keeps.records]
  | isEmpty =>
    refine ⟨_, rfl, ?_⟩
    rw [isEmpty, List.isEmpty_iff, List.eq_nil_iff_forall_not_mem]
    simp only [keeps.mem_records_iff]

/-- A call that changes nothing keeps everything, if its identifier has a record. -/
theorem Keeps.unchanged (keeps : Keeps log a) {call : Call} {answer : Answer}
    (unwritten : written [(call, answer)] = [])
    (known : ∀ id, call.target? = some id → id ∈ a.records.map (·.auditId)) :
    Keeps (log ++ [(call, answer)]) a where
  records := by rw [written_append, unwritten, List.append_nil, keeps.records]
  distinct := keeps.distinct
  tried id := by
    rw [mem_targets_concat, ← keeps.tried]
    exact ⟨.inl, fun either => either.elim (·) (known id)⟩

/-- One call keeps what was kept, and adds a record only under a new identifier. -/
theorem Keeps.serve (keeps : Keeps log a) (call : Call) :
    Keeps (log ++ [(call, (a.serve call).1)]) (a.serve call).2 := by
  cases call with
  | insert record =>
    cases taken : a.get? record.auditId with
    | none =>
      rw [serve_insert_of_fresh taken]
      rw [Archive.get?_eq_none_iff] at taken
      refine ⟨?_, ?_, fun id => ?_⟩
      · rw [written_append, keeps.records]
        rfl
      · rw [List.map_append]
        exact keeps.distinct.append (List.nodup_singleton _) (by simpa using taken)
      · rw [mem_targets_concat, ← keeps.tried, List.map_append, List.mem_append]
        simp only [List.map_cons, List.map_nil, List.mem_singleton, Call.target?,
          Option.some.injEq, eq_comm]
    | some other =>
      rw [serve_insert_of_taken taken]
      refine keeps.unchanged rfl fun id same => ?_
      obtain ⟨member, known⟩ := mem_of_get? taken
      cases same
      exact known ▸ List.mem_map_of_mem member
  | get | size | isEmpty => exact keeps.unchanged rfl nofun

end Keeps

theorem Serves.keeps {log : Log} {a : Archive} (serves : Serves log a) : Keeps log a := by
  induction serves with
  | start => exact ⟨rfl, List.nodup_nil, fun _ => Iff.rfl⟩
  | serve _ call ih => exact ih.serve call

theorem Serves.of_concat {log : Log} {call : Call} {answer : Answer} {a : Archive}
    (serves : Serves (log ++ [(call, answer)]) a) :
    ∃ b, Serves log b ∧ answer = (b.serve call).1 ∧ a = (b.serve call).2 := by
  generalize whole : log ++ [(call, answer)] = all at serves
  cases serves with
  | start => simp at whole
  | serve served call =>
    obtain ⟨rfl, last⟩ := List.append_inj' whole rfl
    cases last
    exact ⟨_, served, rfl, rfl⟩

theorem Serves.answers {earlier later : Log} {call : Call} {answer : Answer} {a : Archive}
    (serves : Serves (earlier ++ (call, answer) :: later) a) : Answers earlier call answer := by
  induction later using List.reverseRecOn generalizing a with
  | nil =>
    obtain ⟨b, served, rfl, _⟩ := serves.of_concat
    exact served.keeps.answers call
  | append_singleton later last ih =>
    rw [← List.cons_append, ← List.append_assoc] at serves
    obtain ⟨b, served, _⟩ := serves.of_concat
    exact ih served

/-- A refused record leaves no trace. -/
theorem serve_insert_refused {a : Archive} {record : Record} {error : Error}
    (refused : (a.serve (.insert record)).1 = .inserted (.error error)) :
    (a.serve (.insert record)).2 = a := by
  cases taken : a.get? record.auditId with
  | none =>
    rw [serve_insert_of_fresh taken] at refused
    cases refused
  | some other => rw [serve_insert_of_taken taken]

theorem targets_perm {first second : Log}
    (same : (first.map (·.1)).Perm (second.map (·.1))) : (targets first).Perm (targets second) := by
  have tried (log : Log) : targets log = (log.map (·.1)).filterMap Call.target? := by
    rw [List.filterMap_map]
    rfl
  rw [tried, tried]
  exact same.filterMap _

/-- In whatever order tasks take turns on an archive, each call is answered by what was written
before it: a record is accepted exactly when no record was accepted under its identifier, and a
look-up gives the record that was accepted first. A refused record changes no look-up and no count.
There are as many records as were accepted, which is how many identifiers were tried, and which
identifiers have a record does not depend on the order of the calls. -/
theorem written_once {tasks : List Task} {s : Shared} (reached : Shared.Leads (.start tasks) s) :
    (∀ earlier call answer later, s.log = earlier ++ (call, answer) :: later →
      Answers earlier call answer) ∧
    (∀ id record, s.archive.get? id = some record ↔ First s.log id record) ∧
    (∀ id, s.archive.get? id = none ↔ ∀ record, Wrote s.log record → record.auditId ≠ id) ∧
    s.archive.size = (written s.log).length ∧
    s.archive.size = (targets s.log).dedup.length ∧
    (∀ record error, (s.archive.serve (.insert record)).1 = .inserted (.error error) →
      (∃ text, error = .internal text) ∧
      (∀ id, (s.archive.serve (.insert record)).2.get? id = s.archive.get? id) ∧
      (s.archive.serve (.insert record)).2.size = s.archive.size) ∧
    (∀ id, (s.archive.get? id).isSome = true ↔ id ∈ targets s.log) ∧
    ∀ others t, Shared.Leads (.start others) t → (t.log.map (·.1)).Perm (s.log.map (·.1)) →
      ∀ id, (t.archive.get? id).isSome = (s.archive.get? id).isSome := by
  have serves := reached.serves
  have keeps := serves.keeps
  refine ⟨fun earlier call answer later whole => ?_, fun id record => keeps.get?_eq_some_iff,
    fun id => keeps.get?_eq_none_iff, by rw [size, keeps.records],
    keeps.length_dedup_targets.symm, fun record error refused => ⟨?_, ?_, ?_⟩, fun id => ?_,
    fun others t elsewhere same id => ?_⟩
  · rw [whole] at serves
    exact serves.answers
  · -- Of the two ways to answer, only the second is a refusal.
    rcases keeps.answers (.insert record) with ⟨_, accepted⟩ | ⟨_, other⟩
    · rw [accepted] at refused
      cases refused
    · rw [other] at refused
      cases refused
      exact ⟨_, rfl⟩
  · intro id
    rw [serve_insert_refused refused]
  · rw [serve_insert_refused refused]
  · rw [isSome_get?_iff, keeps.tried]
  · rw [Bool.eq_iff_iff, isSome_get?_iff, isSome_get?_iff, elsewhere.serves.keeps.tried,
      keeps.tried]
    exact (targets_perm same).mem_iff

/-- Two tasks write under one identifier. The second in the list is the first to be served. -/
theorem written_once_second_task :
    let record (requestId : String) : Record :=
      ⟨⟨1⟩, .failed ⟨requestId, .verify, "boom"⟩, 0, ⟨0, 0, 0⟩⟩
    let look : Task := .call (.get ⟨1⟩) fun _ => .call .size fun _ => .done
    let tasks : List Task :=
      [.call (.insert (record "late")) fun _ => look,
        .call (.insert (record "early")) fun _ => .done]
    ∃ s, Shared.Leads (.start tasks) s ∧ s.tasks = [.done, .done] ∧
      s.log.map (·.1) = [.insert (record "early"), .insert (record "late"), .get ⟨1⟩, .size] ∧
      s.archive.get? ⟨1⟩ = some (record "early") ∧ s.archive.size = 1 := by
  intro record look tasks
  have first : Shared.Leads (.start tasks) _ :=
    .single (@Shared.Step.serve _ [.call (.insert (record "late")) fun _ => look] _ _ _ rfl)
  have second := first.tail (@Shared.Step.serve _ [] _ _ _ rfl)
  have third := second.tail (@Shared.Step.serve _ [] _ _ _ rfl)
  have reached := third.tail (@Shared.Step.serve _ [] _ _ _ rfl)
  obtain ⟨_, found, _, _, tried, _⟩ := written_once reached
  exact ⟨_, reached, rfl, rfl, (found _ _).mpr ⟨[], _, rfl, rfl, nofun⟩, tried⟩

end ClaimAudit.Archive
