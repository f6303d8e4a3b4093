import ClaimAudit.Report

/-! Which stage a failure is blamed on.

An error that is blamed on a stage keeps this stage and its own text, however many stages are blamed
after it. So the text of a failure says what went wrong and never that a stage failed. A failure that
was turned into an error is the failure of this error again, whichever stage runs by then.
-/

set_option autoImplicit false

namespace ClaimAudit

namespace Error

/-- What went wrong, without the stage that is blamed for it. -/
def cause : Error → String
  | .staged _ message => message
  | error => error.message

def atStages (error : Error) (stages : List Stage) : Error :=
  stages.foldl (fun error stage => error.atStage stage) error

theorem cause_of_unblamed {error : Error} (unblamed : error.failedStage? = none) :
    error.cause = error.message := by
  cases error with
  | staged => cases unblamed
  | api | model | embedding | vectorStore | storage | serialization | configuration | timeout
  | notFound | internal => rfl

theorem atStage_eq (error : Error) (blamed : Stage) :
    error.atStage blamed = .staged (error.failedStage?.getD blamed) error.cause := by
  cases error <;> rfl

/-- Whoever is blamed later is not to blame. -/
theorem atStage_atStage (error : Error) (first second : Stage) :
    (error.atStage first).atStage second = error.atStage first := by
  rw [atStage_eq error]
  rfl

theorem atStages_atStage (error : Error) (first : Stage) (later : List Stage) :
    (error.atStage first).atStages later = error.atStage first := by
  induction later with
  | nil => rfl
  | cons second later ih =>
    calc (error.atStage first).atStages (second :: later)
        = ((error.atStage first).atStage second).atStages later := rfl
      _ = (error.atStage first).atStages later := by rw [atStage_atStage]
      _ = error.atStage first := ih

theorem atStages_cons (error : Error) (first : Stage) (later : List Stage) :
    error.atStages (first :: later) = .staged (error.failedStage?.getD first) error.cause :=
  (atStages_atStage error first later).trans (atStage_eq error first)

end Error

namespace Failure

theorem ofError_atStages (requestId : String) (running : Stage) (error : Error) (first : Stage)
    (later : List Stage) :
    ofError requestId running (error.atStages (first :: later)) =
      ⟨requestId, error.failedStage?.getD first, error.cause⟩ := by
  rw [Error.atStages_cons]
  rfl

/-- The first stage that is blamed for an error stays blamed, with the error's own text, and an error
that blames a stage already keeps both; what is shown of it names one stage, however many were
blamed. A failure that was turned into an error comes back from it, even if other stages are
blamed for it in between. -/
theorem first_blame_kept (requestId : String) (running : Stage) (error : Error) (first : Stage)
    (later : List Stage) :
    (error.failedStage? = none →
      ofError requestId running (error.atStages (first :: later)) =
        ⟨requestId, first, error.message⟩) ∧
    (∀ blamed message, error = .staged blamed message →
      ofError requestId running (error.atStages (first :: later)) =
        ⟨requestId, blamed, message⟩) ∧
    (error.atStages (first :: later)).message =
      "Audit stage " ++ (error.failedStage?.getD first).name ++ " failed: " ++ error.cause ∧
    ∀ (failure : Failure) (blamed : List Stage), ∃ raised,
      (Report.failed failure).toExcept = .error raised ∧
      ofError failure.requestId running (raised.atStages blamed) = failure := by
  refine ⟨fun unblamed => ?_, ?_, ?_, fun failure blamed => ⟨_, rfl, ?_⟩⟩
  · rw [ofError_atStages, unblamed, Error.cause_of_unblamed unblamed]
    rfl
  · rintro blamed message rfl
    exact ofError_atStages requestId running _ first later
  · rw [Error.atStages_cons]
    rfl
  · cases blamed with
    | nil => rfl
    | cons blamed others => exact ofError_atStages failure.requestId running _ blamed others

/-- Of two stages the first is to blame. -/
theorem first_blame_kept_two_stages :
    let error := Error.vectorStore "down"
    error.failedStage? = none ∧ ofError "7" .score (error.atStages [.retrieve, .verify]) =
      ⟨"7", .retrieve, "Vector store error: down"⟩ := by
  intro error
  exact ⟨rfl, (first_blame_kept "7" .score error .retrieve [.verify]).1 rfl⟩

end Failure

end ClaimAudit
