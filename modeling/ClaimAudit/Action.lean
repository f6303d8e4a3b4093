import ClaimAudit.Error

/-! Actions that may change some state and may fail.

A failed action keeps the changes made before it failed. An action on one part of
a larger state leaves the other parts alone.
-/

set_option autoImplicit false

namespace ClaimAudit

abbrev Action (σ α : Type) := ExceptT Error (StateM σ) α

theorem Action.run_bind {σ α β : Type} (first : Action σ α) (next : α → Action σ β) (s : σ) :
    (first >>= next).run s =
      match first.run s with
      | (.ok a, t) => (next a).run t
      | (.error error, t) => (.error error, t) := by
  simp only [ExceptT.run, bind, ExceptT.bind, ExceptT.mk, StateT.bind]
  cases first s with
  | mk outcome t => cases outcome <;> rfl

namespace Action

variable {σ α : Type} (s : σ)

@[simp] theorem run_get : (get : Action σ σ).run s = (.ok s, s) := rfl

theorem run_liftM (program : StateM σ α) :
    (liftM program : Action σ α).run s = (.ok (program s).1, (program s).2) := rfl

@[simp] theorem run_liftExcept (outcome : Except Error α) :
    (liftExcept outcome : Action σ α).run s = (outcome, s) := by
  cases outcome <;> rfl

end Action

theorem Action.ok_of_run_bind {σ α β : Type} {first : Action σ α} {next : α → Action σ β}
    {s t : σ} {b : β} (ran : (first >>= next).run s = (.ok b, t)) :
    ∃ a u, first.run s = (.ok a, u) ∧ (next a).run u = (.ok b, t) := by
  rw [run_bind] at ran
  split at ran
  · exact ⟨_, _, ‹_›, ran⟩
  · cases ran

/-- A part of a state: how to read it and how to replace it. -/
structure Part (σ τ : Type) where
  get : σ → τ
  set : τ → σ → σ

namespace Part

variable {σ τ α : Type}

def run (part : Part σ τ) (program : StateM τ α) : StateM σ α := fun state =>
  let (result, changed) := program (part.get state)
  (result, part.set changed state)

def act (part : Part σ τ) (action : Action τ α) : Action σ α := ExceptT.mk (part.run action.run)

theorem run_act (part : Part σ τ) (action : Action τ α) (s : σ) :
    (part.act action).run s =
      ((action.run (part.get s)).1, part.set (action.run (part.get s)).2 s) := rfl

def first : Part (σ × τ) σ := ⟨Prod.fst, fun a s => (a, s.2)⟩

def second : Part (σ × τ) τ := ⟨Prod.snd, fun b s => (s.1, b)⟩

end Part

end ClaimAudit
