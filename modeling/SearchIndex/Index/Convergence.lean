import SearchIndex.Index.Basic

/-!
Convergence: after its fields have changed a domain has to index its documents again. Applying the
changes has that done if needed and then waits until the domain is not processing any more, with
pauses that double, up to a deadline. A timeout so long that its deadline cannot be told sets none.
-/

namespace SearchIndex

namespace Convergence

/-- The shortest first pause, so that a domain is never asked without a pause between. -/
def minBackoff : Nat := Time.millisecond

/-- The first pause. -/
def firstBackoff (initial : Nat) : Nat := max initial minBackoff

/-- The next pause: never past the deadline, and none at the deadline. -/
def pause? (deadline : Option Nat) (now backoff : Nat) : Option Nat :=
  match deadline with
  | some deadline => if deadline ≤ now then none else some (min backoff (deadline - now))
  | none => some backoff

end Convergence

namespace Index

open Command Convergence

/-- Looks at a domain again and again while it is processing, at most `looks` times. Tells whether
it has stopped before the deadline; none if neither has come by then. -/
def await (clock : Clock) (deadline : Option Nat) : Nat → Nat → Command Index (Option Bool)
  | 0, _ => return none
  | looks + 1, backoff => do
    match pause? deadline (← time clock) backoff with
    | none => return some false
    | some pause =>
      sleep pause
      if (← status true).processing then await clock deadline looks (Time.doubled backoff)
      else return some true

/-- Has the domain converge within the timeout, as the clock shows it: tells whether at the last look it was
not processing. Every look is a fresh one; after pauses there are at most so many as `looks` allows for the
deadline. -/
def applyChangesBy (clock : Clock) (timeout : Nat) (looks : Option Nat → Nat) : Command Index (Option Bool) := do
  let start ← time clock
  let deadline := Time.deadline? start timeout
  let first ← status true
  let current ← if first.requiresIndexing then do reindex; status true else pure first
  if current.processing then
    await clock deadline (looks deadline) (firstBackoff (← state).schema.initialBackoff)
  else return some true

/-- Without a deadline the domain is looked at no more than `patience` times; with one there is no need of a
limit, as every pause takes at least a nanosecond of the time left. -/
def looksAllowed (timeout patience : Nat) : Option Nat → Nat
  | some _ => timeout + 1
  | none => patience

/-- Has the domain converge within the timeout, where no time passes but in pauses. -/
def applyChanges (timeout patience : Nat) : Command Index (Option Bool) :=
  applyChangesBy Exchange.now timeout (looksAllowed timeout patience)

end Index

end SearchIndex
