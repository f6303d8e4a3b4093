import ClaimAudit.Proofs.Findings
import ClaimAudit.Proofs.FloatArithmetic
import ClaimAudit.Proofs.TimeLimit
import Mathlib.Algebra.Order.Field.Rat
import Mathlib.Data.List.Forall2

/-! When an answer counts as hallucinated.

The first alarming judgment flags the answer, an unsupported claim of high confidence. Without one
the share of judgments against the answer decides. Worse judgments never clear the flag: they keep
every alarm, or they keep the share from falling, which holds of exact fractions and of their
floating-point values alike.
-/

set_option autoImplicit false

namespace ClaimAudit

variable {R : Type}

def against (judgments : List (Judgment R)) : Nat :=
  judgments.countP fun j => j.status = .unsupported ∨ j.status = .partiallySupported

theorem problematic_iff (s : Status) :
    s.problematic = true ↔ s = .unsupported ∨ s = .partiallySupported := by
  cases s <;> decide

theorem countP_problematic (judgments : List (Judgment R)) :
    judgments.countP (fun j => j.status.problematic) = against judgments :=
  List.countP_congr fun j _ => by simp [problematic_iff]

namespace Scoring

section Trigger

variable [LT R] [DecidableLT R] (scoring : Scoring R) {judgments : List (Judgment R)}

/-- An unsupported claim above the threshold. -/
def Alarms (j : Judgment R) : Prop :=
  j.status = .unsupported ∧ scoring.highConfidence < j.confidence

def FirstAlarm (judgments : List (Judgment R)) (i : Nat) (j : Judgment R) : Prop :=
  judgments[i]? = some j ∧ scoring.Alarms j ∧
    ∀ k < i, ∀ earlier, judgments[k]? = some earlier → ¬ scoring.Alarms earlier

def Silent (judgments : List (Judgment R)) : Prop :=
  ∀ j ∈ judgments, ¬ scoring.Alarms j

variable {scoring}

theorem alarming_iff {j : Judgment R} : scoring.alarming j = true ↔ scoring.Alarms j := by
  simp [alarming, Alarms]

theorem find?_alarming_eq_some_iff {i : Nat} {j : Judgment R} :
    (judgments.zipIdx.find? fun (j, _) => scoring.alarming j) = some (j, i) ↔
      scoring.FirstAlarm judgments i j := by
  rw [List.find?_eq_some_iff_getElem]
  simp only [List.getElem_zipIdx, List.length_zipIdx, Prod.mk.injEq, Nat.zero_add,
    Bool.not_eq_true', Bool.eq_false_iff, ne_eq, alarming_iff]
  constructor
  · rintro ⟨alarm, k, short, ⟨rfl, rfl⟩, first⟩
    refine ⟨List.getElem?_eq_getElem short, alarm, fun l before earlier place => ?_⟩
    obtain ⟨_, rfl⟩ := List.getElem?_eq_some_iff.mp place
    exact first l before
  · rintro ⟨place, alarm, first⟩
    obtain ⟨short, rfl⟩ := List.getElem?_eq_some_iff.mp place
    exact ⟨alarm, i, short, ⟨rfl, rfl⟩, fun k before =>
      first k before _ (List.getElem?_eq_getElem (before.trans short))⟩

theorem find?_alarming_eq_none_iff :
    (judgments.zipIdx.find? fun (j, _) => scoring.alarming j) = none ↔
      scoring.Silent judgments := by
  rw [List.find?_eq_none]
  simp only [alarming_iff]
  constructor
  · intro none j member
    obtain ⟨i, found⟩ := List.mem_iff_getElem?.mp member
    exact none (j, i) (List.mk_mem_zipIdx_iff_getElem?.mpr found)
  · exact fun silent entry member => silent _ (List.fst_mem_of_mem_zipIdx member)

variable [NatCast R] [Div R]

/-- The share of judgments against the answer is too great. -/
def Exceeds (scoring : Scoring R) (judgments : List (Judgment R)) : Prop :=
  judgments ≠ [] ∧ scoring.problematicRatio < (against judgments : R) / (judgments.length : R)

theorem trigger?_of_first {i : Nat} {j : Judgment R} (first : scoring.FirstAlarm judgments i j) :
    scoring.trigger? judgments = some (.highConfidenceUnsupported i j.confidence) := by
  have inhabited : judgments.isEmpty = false := by
    cases judgments with
    | nil => cases first.1
    | cons => rfl
  rw [trigger?, inhabited, find?_alarming_eq_some_iff.mpr first]
  rfl

theorem trigger?_of_silent (silent : scoring.Silent judgments) :
    (scoring.Exceeds judgments → scoring.trigger? judgments =
      some (.problematicRatio ((against judgments : R) / (judgments.length : R)))) ∧
    (¬ scoring.Exceeds judgments → scoring.trigger? judgments = none) := by
  have share : problematicShare judgments = (against judgments : R) / (judgments.length : R) := by
    rw [problematicShare, countP_problematic]
  cases judgments with
  | nil => exact ⟨fun exceeds => absurd rfl exceeds.1, fun _ => rfl⟩
  | cons j rest =>
    simp only [trigger?, List.isEmpty_cons, Bool.false_eq_true, if_false,
      find?_alarming_eq_none_iff.mpr silent, share]
    exact ⟨fun exceeds => if_pos exceeds.2, fun within => if_neg fun above =>
      within ⟨List.cons_ne_nil _ _, above⟩⟩

/-- What can be concluded from judgments, and when. -/
inductive Concludes (scoring : Scoring R) (judgments : List (Judgment R)) :
    Option (Trigger R) → Prop where
  | alarm {i : Nat} {j : Judgment R} (first : scoring.FirstAlarm judgments i j) :
      Concludes scoring judgments (some (.highConfidenceUnsupported i j.confidence))
  | share (silent : scoring.Silent judgments) (exceeds : scoring.Exceeds judgments) :
      Concludes scoring judgments
        (some (.problematicRatio ((against judgments : R) / (judgments.length : R))))
  | nothing (silent : scoring.Silent judgments) (within : ¬ scoring.Exceeds judgments) :
      Concludes scoring judgments none

theorem trigger?_concludes (scoring : Scoring R) (judgments : List (Judgment R)) :
    scoring.Concludes judgments (scoring.trigger? judgments) := by
  cases found : judgments.zipIdx.find? fun (j, _) => scoring.alarming j with
  | some entry =>
    have first := find?_alarming_eq_some_iff.mp found
    rw [trigger?_of_first first]
    exact .alarm first
  | none =>
    have silent := find?_alarming_eq_none_iff.mp found
    by_cases exceeds : scoring.Exceeds judgments
    · rw [(trigger?_of_silent silent).1 exceeds]
      exact .share silent exceeds
    · rw [(trigger?_of_silent silent).2 exceeds]
      exact .nothing silent exceeds

theorem isSome_trigger?_iff : (scoring.trigger? judgments).isSome = true ↔
    (∃ j ∈ judgments, scoring.Alarms j) ∨ scoring.Exceeds judgments := by
  have concluded := trigger?_concludes scoring judgments
  generalize scoring.trigger? judgments = trigger at concluded ⊢
  cases concluded with
  | alarm first => exact iff_of_true rfl (.inl ⟨_, List.mem_of_getElem? first.1, first.2.1⟩)
  | share _ exceeds => exact iff_of_true rfl (.inr exceeds)
  | nothing silent within =>
    refine iff_of_false nofun ?_
    rintro (⟨j, member, alarm⟩ | exceeds)
    · exact silent j member alarm
    · exact within exceeds

end Trigger

end Scoring

namespace Auditor

variable {σ : Type} {a : Auditor σ} {limit : Option Nat} {request : Request} {outside : σ}

theorem hallucination_of_completed {findings : Findings}
    (completed : (a.audit limit request outside).1 = .completed findings) :
    findings.hallucination = (a.scoring.trigger? findings.judgments).isSome := by
  have ending := audit_ends a request outside
  rw [completed_of_limit completed] at ending
  obtain ⟨_, _, _, _, _, _, _, asked, rfl, _⟩ := ending.succeeds
  exact asked.reflects.hallucination

end Auditor

/-- The first unsupported claim above the threshold is named, else a share of judgments against
the answer that is too great, and else the answer is not flagged. Of rationals the share is the
fraction itself. Reports are flagged for what their own judgments say. -/
theorem flagged_for_alarm_or_share {σ : Type} [LT R] [DecidableLT R] [NatCast R] [Div R]
    (scoring : Scoring R) (judgments : List (Judgment R)) (a : Auditor σ) (limit : Option Nat)
    (request : Request) (outside : σ) :
    (∀ i c, scoring.trigger? judgments = some (.highConfidenceUnsupported i c) ↔
      ∃ j, scoring.FirstAlarm judgments i j ∧ c = j.confidence) ∧
    (∀ share, scoring.trigger? judgments = some (.problematicRatio share) ↔
      scoring.Silent judgments ∧ judgments ≠ [] ∧
        share = (against judgments : R) / (judgments.length : R) ∧
        scoring.problematicRatio < share) ∧
    (scoring.trigger? judgments = none ↔
      scoring.Silent judgments ∧ ¬ scoring.Exceeds judgments) ∧
    scoring.trigger? [] = none ∧
    ∀ findings, (a.audit limit request outside).1 = .completed findings →
      (findings.hallucination = true ↔
        (∃ j ∈ findings.judgments, a.scoring.Alarms j) ∨
          a.scoring.Exceeds findings.judgments) := by
  have concluded := scoring.trigger?_concludes judgments
  refine ⟨fun i c => ⟨fun alarmed => ?_, ?_⟩, fun share => ⟨fun shared => ?_, ?_⟩,
    ⟨fun none => ?_, ?_⟩, rfl, fun findings completed => ?_⟩
  · rw [alarmed] at concluded
    cases concluded with
    | alarm first => exact ⟨_, first, rfl⟩
  · rintro ⟨j, first, rfl⟩
    exact Scoring.trigger?_of_first first
  · rw [shared] at concluded
    cases concluded with
    | share silent exceeds => exact ⟨silent, exceeds.1, rfl, exceeds.2⟩
  · rintro ⟨silent, some, rfl, above⟩
    exact (Scoring.trigger?_of_silent silent).1 ⟨some, above⟩
  · rw [none] at concluded
    cases concluded with
    | nothing silent within => exact ⟨silent, within⟩
  · rintro ⟨silent, within⟩
    exact (Scoring.trigger?_of_silent silent).2 within
  · rw [Auditor.hallucination_of_completed completed]
    exact Scoring.isSome_trigger?_iff

/-- Thresholds that are met but not passed, and an audit with an alarm. -/
theorem flagged_for_alarm_or_share_at_thresholds :
    let scoring : Scoring ℚ := ⟨1, 1 / 2, 0, 3 / 10, 1 / 10, 7 / 10, 1 / 2, 5, 100⟩
    let judgments : List (Judgment ℚ) :=
      [⟨⟨"Water is dry"⟩, .unsupported, 7 / 10, []⟩, ⟨⟨"Ice is cold"⟩, .supported, 1, []⟩]
    let a : Auditor Backend.Script.Tape := { client := ({} : Backend.Script).client }
    let request : Request := ⟨"one", "Is water wet?", "Water is wet.", []⟩
    let tape : Backend.Script.Tape := { replies := [.ok "[\"Water is wet\"]",
      .ok "\x7b\"status\": \"unsupported\", \"confidence\": 0.9\x7d"] }
    scoring.trigger? judgments = none ∧
      ∃ findings, (a.audit none request tape).1 = .completed findings ∧
        findings.hallucination = true := by
  intro scoring judgments a request tape
  obtain ⟨_, _, unflagged, _, reported⟩ :=
    flagged_for_alarm_or_share scoring judgments a none request tape
  have judged : (a.audit none request tape).1.findings?.map (·.judgments) =
      some [⟨⟨"Water is wet"⟩, .unsupported, 0.9, []⟩] := by decide +kernel
  have alarm : a.scoring.Alarms ⟨⟨"Water is wet"⟩, .unsupported, 0.9, []⟩ := ⟨rfl, by decide⟩
  refine ⟨unflagged.mpr ⟨?_, ?_⟩, ?_⟩
  · intro j member alarm
    simp only [judgments, List.mem_cons, List.not_mem_nil, or_false] at member
    rcases member with rfl | rfl
    · exact absurd alarm.2 (lt_irrefl _)
    · cases alarm.1
  · rintro ⟨_, above⟩
    have share : ((against judgments : ℚ) / (judgments.length : ℚ)) = 1 / 2 := by
      rw [show against judgments = 1 by decide, show judgments.length = 2 by decide]
      norm_num
    rw [share] at above
    exact lt_irrefl _ above
  · cases report : (a.audit none request tape).1 with
    | failed failure =>
      rw [report] at judged
      cases judged
    | completed findings =>
      rw [report] at judged
      have same : findings.judgments = _ := Option.some.inj judged
      refine ⟨findings, rfl, (reported findings report).mpr (.inl ⟨_, ?_, alarm⟩)⟩
      rw [same]
      exact List.mem_singleton_self _

/-- A judgment is replaced by one that is no better. -/
def Judgment.Worsens [LE R] (v w : Judgment R) : Prop :=
  match v.status with
  | .supported | .unknown => True
  | .partiallySupported => w.status = .partiallySupported ∨ w.status = .unsupported
  | .unsupported => w.status = .unsupported ∧ v.confidence ≤ w.confidence

theorem Judgment.Worsens.problematic [LE R] {v w : Judgment R} (worse : v.Worsens w)
    (against : v.status.problematic = true) : w.status.problematic = true := by
  unfold Judgment.Worsens at worse
  cases status : v.status with
  | supported | unknown =>
    rw [status] at against
    cases against
  | partiallySupported =>
    rw [status] at worse
    exact (problematic_iff _).mpr worse.symm
  | unsupported =>
    rw [status] at worse
    exact (problematic_iff _).mpr (.inl worse.1)

theorem against_le_of_worsens [LE R] {v w : List (Judgment R)}
    (worse : List.Forall₂ Judgment.Worsens v w) : against v ≤ against w := by
  rw [← countP_problematic, ← countP_problematic]
  induction worse with
  | nil => exact le_rfl
  | @cons j k v w here _ ih =>
    rw [List.countP_cons, List.countP_cons]
    refine Nat.add_le_add ih ?_
    split
    case isTrue bad => rw [if_pos (here.problematic bad)]
    case isFalse => exact Nat.zero_le _

theorem against_le_length (judgments : List (Judgment R)) :
    against judgments ≤ judgments.length :=
  List.countP_le_length

namespace Scoring

section Worse

variable [LT R] [LE R] {scoring : Scoring R} {v w : List (Judgment R)}
  (passes : ∀ {x y z : R}, x < y → y ≤ z → x < z)
include passes

theorem Alarms.of_worsens {j k : Judgment R} (alarm : scoring.Alarms j) (worse : j.Worsens k) :
    scoring.Alarms k := by
  unfold Judgment.Worsens at worse
  rw [alarm.1] at worse
  exact ⟨worse.1, passes alarm.2 worse.2⟩

theorem exists_alarm_of_worsens (worse : List.Forall₂ Judgment.Worsens v w)
    (loud : ∃ j ∈ v, scoring.Alarms j) : ∃ k ∈ w, scoring.Alarms k := by
  obtain ⟨j, member, alarm⟩ := loud
  induction worse with
  | nil => cases member
  | cons here _ ih =>
    cases member with
    | head => exact ⟨_, List.mem_cons_self, alarm.of_worsens passes here⟩
    | tail _ later =>
      obtain ⟨k, member, alarm⟩ := ih later
      exact ⟨k, List.mem_cons_of_mem _ member, alarm⟩

theorem isSome_trigger?_of_worsens [DecidableLT R] [NatCast R] [Div R]
    (shares : ∀ p q : Nat, p ≤ q → q ≤ w.length → 0 < w.length →
      (p : R) / (w.length : R) ≤ (q : R) / (w.length : R))
    (worse : List.Forall₂ Judgment.Worsens v w)
    (flagged : (scoring.trigger? v).isSome = true) : (scoring.trigger? w).isSome = true := by
  rw [isSome_trigger?_iff] at flagged ⊢
  rcases flagged with loud | ⟨inhabited, above⟩
  · exact .inl (exists_alarm_of_worsens passes worse loud)
  · have pos : 0 < w.length := by
      rw [← worse.length_eq]
      exact List.length_pos_iff.mpr inhabited
    rw [worse.length_eq] at above
    exact .inr ⟨List.length_pos_iff.mp pos, passes above
      (shares _ _ (against_le_of_worsens worse) (against_le_length w) pos)⟩

end Worse

theorem isSome_trigger?_perm [LT R] [DecidableLT R] [NatCast R] [Div R] (scoring : Scoring R)
    {v w : List (Judgment R)} (reordered : v.Perm w) :
    (scoring.trigger? v).isSome = (scoring.trigger? w).isSome := by
  have empty : v = [] ↔ w = [] := by
    rw [← List.length_eq_zero_iff, reordered.length_eq, List.length_eq_zero_iff]
  rw [Bool.eq_iff_iff, isSome_trigger?_iff, isSome_trigger?_iff, Exceeds, Exceeds, against, against,
    reordered.countP_eq, reordered.length_eq, ne_eq, empty]
  simp only [reordered.mem_iff, ne_eq]

end Scoring

/-- Worse judgments never clear the flag, an alarm sets it, and no order of the judgments changes
it. Lists are counted in words of 64 bits, and floating-point shares of such counts keep their
order; those of exact fractions keep it without a bound. -/
theorem worse_judgments_keep_flag (scoring : Scoring Float) (v w : List (Judgment Float))
    (exact : Scoring ℚ) (x y : List (Judgment ℚ)) :
    (v.length < 2 ^ 64 → List.Forall₂ Judgment.Worsens v w →
      (Assessment.of scoring v).hallucination = true →
        (Assessment.of scoring w).hallucination = true) ∧
    ((∃ j ∈ w, scoring.Alarms j) → (Assessment.of scoring w).hallucination = true) ∧
    (v.Perm w →
      (Assessment.of scoring v).hallucination = (Assessment.of scoring w).hallucination) ∧
    (List.Forall₂ Judgment.Worsens x y → (exact.trigger? x).isSome = true →
      (exact.trigger? y).isSome = true) := by
  refine ⟨fun counted worse flagged => ?_, fun loud => ?_, scoring.isSome_trigger?_perm,
    fun worse flagged => ?_⟩
  · rw [worse.length_eq] at counted
    refine Scoring.isSome_trigger?_of_worsens Number.float_lt_of_lt_of_le ?_ worse flagged
    exact fun p q most few pos => Number.quotient_mono most (by omega) pos counted
  · exact Scoring.isSome_trigger?_iff.mpr (.inl loud)
  · refine Scoring.isSome_trigger?_of_worsens lt_of_lt_of_le ?_ worse flagged
    intro p q most _ pos
    have positive : (0 : ℚ) < y.length := by exact_mod_cast pos
    exact (div_le_div_iff_of_pos_right positive).mpr (by exact_mod_cast most)

/-- A list flagged for its share, a worse one flagged for an alarm, and that one turned around. -/
theorem worse_judgments_keep_flag_other_trigger :
    let first : Claim := ⟨"Water is dry"⟩
    let second : Claim := ⟨"Ice is cold"⟩
    let v : List (Judgment Float) :=
      [⟨first, .supported, 0.9, []⟩, ⟨second, .partiallySupported, 0.5, []⟩]
    let w : List (Judgment Float) :=
      [⟨first, .unsupported, 0.8, []⟩, ⟨second, .unsupported, 0.2, []⟩]
    let exact : Scoring ℚ := ⟨1, 1 / 2, 0, 3 / 10, 1 / 10, 7 / 10, 1 / 3, 5, 100⟩
    let x : List (Judgment ℚ) :=
      [⟨first, .supported, 1, []⟩, ⟨second, .unsupported, 1 / 2, []⟩]
    let y : List (Judgment ℚ) :=
      [⟨first, .unknown, 0, []⟩, ⟨second, .unsupported, 7 / 10, []⟩]
    (Assessment.of .standard v).trigger = some (.problematicRatio 0.5) ∧
      (Assessment.of .standard w).trigger = some (.highConfidenceUnsupported 0 0.8) ∧
      (Assessment.of .standard w.reverse).trigger = some (.highConfidenceUnsupported 1 0.8) ∧
      (Assessment.of .standard w).hallucination = true ∧
      (Assessment.of .standard w.reverse).hallucination = true ∧
      exact.trigger? x = some (.problematicRatio (1 / 2)) ∧
      (exact.trigger? y).isSome = true := by
  intro first second v w exact x y
  obtain ⟨worse, _, _, fractions⟩ := worse_judgments_keep_flag .standard v w exact x y
  have kept := worse (by decide) (.cons trivial (.cons (.inr rfl) .nil)) (by decide +kernel)
  obtain ⟨_, _, turned, _⟩ := worse_judgments_keep_flag .standard w w.reverse exact x y
  refine ⟨by decide +kernel, by decide +kernel, by decide +kernel, kept, ?_, by decide +kernel, ?_⟩
  · exact (turned w.reverse_perm.symm).symm.trans kept
  · exact fractions (.cons trivial (.cons ⟨rfl, by decide +kernel⟩ .nil)) (by decide +kernel)

end ClaimAudit
