import Reconciliation.Configuration
import Reconciliation.Status
/-!
# Backoff driven by the recorded status

No failures are counted. The seed of a delay is the time since the transition that the status records,
in whole seconds, and the delay is twice the seed up to a ceiling. A pass that comes back exactly when
its delay is over therefore waits 2, 4, 8 … units, and one that comes back early waits less.
-/

namespace Reconciliation

/-- The unit and the ceiling of the delays after failures. -/
structure Backoff where
  base : Duration
  max : Duration
  deriving DecidableEq, Repr

namespace Backoff

def ofConfiguration (c : Configuration) : Backoff :=
  ⟨c.backoffBase, c.backoffMax⟩

def default : Backoff :=
  ofConfiguration .default

/-- Nanoseconds rounded to whole seconds, halves upwards. -/
def roundToSecond (nanos : Nat) : Nat :=
  let rest := nanos % nanosPerSecond
  if rest * 2 < nanosPerSecond then nanos - rest else nanos + (nanosPerSecond - rest)

/-- The duration of an elapsed time in whole seconds: none before it began, and the longest one when
its nanoseconds do not fit 64 bits. -/
def roundElapsed (nanos : Int) : Duration :=
  if nanos < 0 then .zero
  else if roundToSecond nanos.toNat < Nat.pow 2 64 then .ofNanos (roundToSecond nanos.toNat)
  else .longest

/-- The time that a delay doubles: the unit after a success or without a recorded transition, else the
time since that transition. -/
def seed (b : Backoff) (now : Instant) (previous : Status) : Duration :=
  match previous.lastUpdate with
  | none => b.base
  | some recorded =>
    if previous.outcome = .success then b.base else roundElapsed (now.since recorded)

/-- Twice the seed, up to the ceiling. -/
def delay (b : Backoff) (seed : Duration) : Duration :=
  min (seed.times 2) b.max

/-- The delay after a failure at `now`, given the status recorded before it. -/
def requeueDelay (b : Backoff) (now : Instant) (previous : Option Status) : Duration :=
  b.delay (match previous with
    | none => b.base
    | some s => b.seed now s)

end Backoff

end Reconciliation
