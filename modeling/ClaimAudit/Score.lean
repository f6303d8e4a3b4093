import ClaimAudit.Judgment

/-! Reducing judgments to a score and a hallucination flag.

The score is the mean of what each status is worth, weighted by confidence. The
arithmetic is stated for any kind of number: reports use floating-point numbers,
and exact rationals show what the formulas mean.
-/

set_option autoImplicit false

namespace ClaimAudit

structure Scoring (R : Type) where
  supported : R
  partiallySupported : R
  unsupported : R
  unknown : R
  /-- The least weight of a claim. -/
  minWeight : R
  /-- An unsupported claim above this confidence flags the answer. -/
  highConfidence : R
  /-- A share of problematic claims above this flags the answer. -/
  problematicRatio : R
  /-- How many unsupported claims an explanation lists. -/
  maxExamples : Nat
  /-- How many characters of a listed claim are shown. -/
  maxExampleChars : Nat
  deriving DecidableEq

inductive Trigger (R : Type) where
  | highConfidenceUnsupported (claimIndex : Nat) (confidence : R)
  | problematicRatio (ratio : R)
  deriving DecidableEq

instance natCastFloat : NatCast Float := ⟨Float.ofNat⟩

namespace Scoring

def standard : Scoring Float where
  supported := 1
  partiallySupported := 0.5
  unsupported := 0
  unknown := 0.3
  minWeight := 0.1
  highConfidence := 0.7
  problematicRatio := 0.3
  maxExamples := 5
  maxExampleChars := 100

section Arithmetic

variable {R : Type}

def worth (scoring : Scoring R) : Status → R
  | .supported => scoring.supported
  | .partiallySupported => scoring.partiallySupported
  | .unsupported => scoring.unsupported
  | .unknown => scoring.unknown

/-- The larger of two numbers. One that does not compare with itself loses. -/
def larger [LE R] [DecidableLE R] (a b : R) : R :=
  if a ≤ b then b else if a ≤ a then a else b

def weight [LE R] [DecidableLE R] (scoring : Scoring R) (j : Judgment R) : R :=
  larger j.confidence scoring.minWeight

variable [OfNat R 0] [Add R]

def sum (terms : List R) : R := terms.foldl (· + ·) 0

def totalWeight [LE R] [DecidableLE R] (scoring : Scoring R) (judgments : List (Judgment R)) : R :=
  sum (judgments.map scoring.weight)

def weightedWorth [LE R] [DecidableLE R] [Mul R] (scoring : Scoring R)
    (judgments : List (Judgment R)) : R :=
  sum (judgments.map fun j => scoring.worth j.status * scoring.weight j)

/-- The weighted mean worth, in the unit interval; zero without positive weight. -/
def faithfulness [LE R] [DecidableLE R] [LT R] [DecidableLT R] [OfNat R 1] [Mul R] [Div R]
    (scoring : Scoring R) (judgments : List (Judgment R)) : R :=
  if scoring.totalWeight judgments ≤ 0 then 0
  else unitInterval (scoring.weightedWorth judgments / scoring.totalWeight judgments)

end Arithmetic

section Flag

variable {R : Type} [LT R] [DecidableLT R]

def alarming (scoring : Scoring R) (j : Judgment R) : Bool :=
  j.status = .unsupported && scoring.highConfidence < j.confidence

def problematicShare [NatCast R] [Div R] (judgments : List (Judgment R)) : R :=
  Nat.cast (judgments.countP fun j => j.status.problematic) / Nat.cast judgments.length

def trigger? [NatCast R] [Div R] (scoring : Scoring R) (judgments : List (Judgment R)) :
    Option (Trigger R) :=
  if judgments.isEmpty then none
  else
    match judgments.zipIdx.find? fun (j, _) => scoring.alarming j with
    | some (j, index) => some (.highConfidenceUnsupported index j.confidence)
    | none =>
      let share := problematicShare judgments
      if scoring.problematicRatio < share then some (.problematicRatio share) else none

end Flag

end Scoring

inductive Grade where
  | a
  | b
  | c
  | d
  deriving DecidableEq, Repr

namespace Grade

def all : List Grade := [.a, .b, .c, .d]

def name : Grade → String
  | .a => "A"
  | .b => "B"
  | .c => "C"
  | .d => "D"

def ofScore (score : Float) : Grade :=
  if 0.9 ≤ score then .a
  else if 0.7 ≤ score then .b
  else if 0.5 ≤ score then .c
  else .d

end Grade

end ClaimAudit
