import ClaimAudit.Text.Alphanumeric
import ClaimAudit.Text.Joining

/-! Texts in which some letters run from right to left.

Such a text is read in only one way if it begins with a letter, keeps to the direction
of that letter, and ends with a letter or a digit.
-/

set_option autoImplicit false

namespace ClaimAudit.Text

inductive Direction where
  | left
  | right
  /-- A digit of the scripts that are written from right to left. -/
  | rightNumber
  | number
  | mark
  | neutral
  deriving DecidableEq, Repr

def rightNumberRanges : List (Nat × Nat) :=
  [(0x660, 0x669), (0x66B, 0x66C), (0x10D30, 0x10D39), (0x10E60, 0x10E7E)]

def numberRanges : List (Nat × Nat) := [(0x30, 0x39), (0x6F0, 0x6F9), (0x102E1, 0x102FB)]

def rightRanges : List (Nat × Nat) :=
  [(0x590, 0x8FF), (0xFB1D, 0xFDFF), (0xFE70, 0xFEFF), (0x10800, 0x10FFF), (0x1E800, 0x1EFFF)]

def signRanges : List (Nat × Nat) :=
  [(0x606, 0x607), (0x609, 0x60A), (0x60C, 0x60C), (0x60E, 0x60F), (0x66A, 0x66A), (0x6DE, 0x6DE),
   (0x6E9, 0x6E9), (0x7F6, 0x7F9), (0xFD3E, 0xFD4F), (0xFDCF, 0xFDCF), (0xFDFD, 0xFDFF),
   (0x1091F, 0x1091F), (0x10B39, 0x10B3F), (0x1EEF0, 0x1EEF1)]

def direction (c : Char) : Direction :=
  if within rightNumberRanges c then .rightNumber
  else if within numberRanges c then .number
  else if isPlacedMark c then .mark
  else if within rightRanges c then if within signRanges c then .neutral else .right
  else if isAlphanumeric c || within spacingMarkRanges c then .left
  else .neutral

def runsLeft (cs : List Char) : Bool := cs.any fun c => direction c ∈ [.right, .rightNumber]

/-- Whether a text is read in only one way beside others that run from right to left. -/
def keepsDirection (cs : List Char) : Bool :=
  let all := cs.map direction
  let last := (all.reverse.dropWhile (· = .mark)).headD .neutral
  match all with
  | [] => true
  | .right :: _ =>
    !all.contains .left && last ∈ [.right, .number, .rightNumber] &&
      !(all.contains .number && all.contains .rightNumber)
  | .left :: _ =>
    !all.contains .right && !all.contains .rightNumber && last ∈ [.left, .number]
  | _ => false

end ClaimAudit.Text
