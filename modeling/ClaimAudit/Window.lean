import ClaimAudit.Session

/-! Answering many items with a bounded number of calls in flight.

Items are sent in order. An answer is passed on once all earlier items have
theirs; until then it is held, and held answers count against the bound. So the
answers come out in the order of the items, whatever order the calls finish in.
-/

set_option autoImplicit false

namespace ClaimAudit

structure Call (α : Type) where
  position : Nat
  item : α
  due : Nat
  deriving DecidableEq, Repr

structure Window (α β : Type) where
  /-- Items not sent yet, with their positions. -/
  waiting : List (Nat × α)
  /-- Calls without an answer, in the order in which they were sent. -/
  inFlight : List (Call α)
  /-- The answers by position. -/
  slots : List (Option β)
  deriving DecidableEq, Repr

namespace Window

variable {α β σ : Type}

def of (items : List α) : Window α β where
  waiting := items.zipIdx.map fun (item, position) => (position, item)
  inFlight := []
  slots := items.map fun _ => none

/-- How many answers have been passed on. -/
def passed (w : Window α β) : Nat := (w.slots.takeWhile Option.isSome).length

/-- Send items while the bound allows it. -/
def fill (width clock : Nat) (delay : α → Nat) (w : Window α β) : Window α β :=
  let sent := w.waiting.takeWhile fun (position, _) => position < w.passed + width
  let calls := sent.map fun (position, item) => ⟨position, item, clock + delay item⟩
  { w with waiting := w.waiting.drop sent.length, inFlight := w.inFlight ++ calls }

def answer (position : Nat) (result : β) (w : Window α β) : Window α β :=
  { w with
    inFlight := w.inFlight.filter fun call => call.position ≠ position
    slots := w.slots.set position (some result) }

/-- The call that is due first; of several the one sent first. -/
def earliest? : List (Call α) → Option (Call α)
  | [] => none
  | call :: rest =>
    match earliest? rest with
    | some other => if other.due < call.due then some other else some call
    | none => some call

def results (w : Window α β) : List β := w.slots.filterMap id

def rounds (width : Nat) (delay : α → Nat) (reply : α → Session σ β) :
    Nat → Window α β → Session σ (List β)
  | 0, w => return w.results
  | n + 1, w =>
    match earliest? w.inFlight with
    | none => return w.results
    | some call => do
      Session.waitUntil call.due
      let result ← reply call.item
      rounds width delay reply n
        ((w.answer call.position result).fill width (← Session.clock) delay)

def run (width : Nat) (delay : α → Nat) (reply : α → Session σ β) (items : List α) :
    Session σ (List β) := do
  rounds width delay reply items.length ((of items).fill width (← Session.clock) delay)

end Window

end ClaimAudit
