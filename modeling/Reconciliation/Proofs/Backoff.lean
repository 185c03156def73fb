import Mathlib.Algebra.Group.Nat.Defs
import Reconciliation.Backoff
import Reconciliation.Proofs.Time.Instant
/-!
# Delays of punctual failures

Whole seconds are what the rounding leaves alone. So the delay after a failure that comes exactly when some whole
seconds are over since the one before it is twice those seconds, up to the ceiling (`requeueDelay_of_shift?`).
-/

namespace Reconciliation

namespace Duration

theorem nanos_ofSeconds (n : Nat) : (ofSeconds n).nanos = min (n * nanosPerSecond) maxNanos := rfl

end Duration

namespace Backoff

theorem roundToSecond_eq (n : Nat) :
    roundToSecond n = (2 * n + nanosPerSecond) / (2 * nanosPerSecond) * nanosPerSecond := by
  rw [roundToSecond, nanosPerSecond]
  split <;> omega

theorem roundToSecond_mul (n : Nat) : roundToSecond (n * nanosPerSecond) = n * nanosPerSecond := by
  simp [roundToSecond, nanosPerSecond]

theorem roundElapsed_natCast (n : Nat) : roundElapsed n =
    if roundToSecond n < Nat.pow 2 64 then .ofNanos (roundToSecond n) else .longest := by
  rw [roundElapsed, if_neg (by omega), Int.toNat_natCast]

/-- Whole seconds are not rounded unless their nanoseconds leave the range of what can have passed. -/
theorem roundElapsed_ofSeconds (n : Nat) :
    roundElapsed (Duration.ofSeconds n).nanos =
      if n * nanosPerSecond < Nat.pow 2 64 then .ofSeconds n else .longest := by
  have hmax : Duration.maxNanos = 18446744073709551615999999999 := by decide
  have hrange : Nat.pow 2 64 = 18446744073709551616 := by decide
  rw [roundElapsed_natCast, Duration.nanos_ofSeconds]
  by_cases h : n * nanosPerSecond < Nat.pow 2 64
  · have hle : n * nanosPerSecond ≤ Duration.maxNanos := by omega
    rw [Nat.min_eq_left hle, roundToSecond_mul, if_pos h, if_pos h]
    rfl
  -- The longest duration is no whole number of seconds either: it is rounded up, and out of range.
  · have hround : ¬ roundToSecond (min (n * nanosPerSecond) Duration.maxNanos) < Nat.pow 2 64 := by
      rw [roundToSecond, hrange, hmax]
      rw [hrange] at h
      rw [nanosPerSecond] at *
      split <;> omega
    rw [if_neg hround, if_neg h]

/-- The seconds to wait after so many failures in a row, and the unit after none. -/
def waitSeconds (c : Configuration) : Nat → Nat
  | 0 => c.backoffBaseSeconds
  | n + 1 => min (2 ^ (n + 1) * c.backoffBaseSeconds) c.backoffMaxSeconds

theorem waitSeconds_succ (c : Configuration) (n : Nat) :
    waitSeconds c (n + 1) = min (2 * waitSeconds c n) c.backoffMaxSeconds := by
  cases n with
  | zero => rw [waitSeconds, waitSeconds, Nat.zero_add, Nat.pow_one]
  | succ n =>
    rw [waitSeconds, waitSeconds, Nat.pow_succ _ (n + 1)]
    generalize 2 ^ (n + 1) = factor
    have hdouble : factor * 2 * c.backoffBaseSeconds = 2 * (factor * c.backoffBaseSeconds) := by
      rw [Nat.mul_comm factor 2, Nat.mul_assoc]
    omega

/-- Doubling stops at the longest duration, but no ceiling is beyond that. -/
theorem nanos_delay (b : Backoff) (seed : Duration) : (b.delay seed).nanos = min (2 * seed.nanos) b.max.nanos := by
  have hmax := b.max.le_maxNanos
  rw [delay, Duration.nanos_min, Duration.nanos_times]
  omega

theorem seed_of_fresh {b : Backoff} {now : Instant} {previous : Status}
    (h : previous.outcome = .success ∨ previous.lastUpdate = none) : b.seed now previous = b.base := by
  rw [seed]
  cases hlast : previous.lastUpdate with
  | none => rfl
  | some recorded =>
    have hsuccess : previous.outcome = .success := h.resolve_right (by simp [hlast])
    dsimp only
    rw [if_pos hsuccess]

variable {c : Configuration} {n : Nat}

theorem delay_ofSeconds (c : Configuration) (n : Nat) :
    (ofConfiguration c).delay (.ofSeconds n) = .ofSeconds (min (2 * n) c.backoffMaxSeconds) := by
  apply Duration.ext
  simp only [nanos_delay, ofConfiguration, Configuration.backoffMax, Duration.nanos_ofSeconds]
  generalize Duration.maxNanos = most
  rw [nanosPerSecond]
  omega

theorem delay_longest (c : Configuration) : (ofConfiguration c).delay .longest = .ofSeconds c.backoffMaxSeconds := by
  apply Duration.ext
  simp only [nanos_delay, ofConfiguration, Configuration.backoffMax, Duration.nanos_longest, Duration.nanos_ofSeconds]
  omega

/-- Seconds beyond the range of what can have passed are beyond the ceiling. -/
theorem delay_roundElapsed (hmax : c.backoffMaxSeconds * nanosPerSecond < Nat.pow 2 64) (n : Nat) :
    (ofConfiguration c).delay (roundElapsed (Duration.ofSeconds n).nanos) =
      .ofSeconds (min (2 * n) c.backoffMaxSeconds) := by
  rw [roundElapsed_ofSeconds]
  split
  · exact delay_ofSeconds c n
  · have hbeyond : c.backoffMaxSeconds ≤ 2 * n := by
      rw [nanosPerSecond] at *
      omega
    rw [delay_longest, Nat.min_eq_right hbeyond]

theorem requeueDelay_fresh {previous : Status} (h : previous.outcome = .success ∨ previous.lastUpdate = none)
    (now : Instant) : (ofConfiguration c).requeueDelay now (some previous) = .ofSeconds (waitSeconds c 1) := by
  have hseed : (ofConfiguration c).seed now previous = .ofSeconds c.backoffBaseSeconds := seed_of_fresh h
  rw [requeueDelay, hseed, delay_ofSeconds, waitSeconds_succ, waitSeconds]

theorem requeueDelay_of_shift? (hmax : c.backoffMaxSeconds * nanosPerSecond < Nat.pow 2 64) {t now : Instant}
    (ht : t.isLeap = false) (hnow : t.shift? (Duration.ofSeconds (waitSeconds c n)).nanos = some now)
    (message : String) :
    (ofConfiguration c).requeueDelay now (some (.failure t message)) = .ofSeconds (waitSeconds c (n + 1)) := by
  have hseed : (ofConfiguration c).seed now (.failure t message) =
      roundElapsed (Duration.ofSeconds (waitSeconds c n)).nanos := by
    rw [← Instant.since_of_shift? ht hnow]
    rfl
  rw [requeueDelay, hseed, delay_roundElapsed hmax, waitSeconds_succ]

end Backoff

end Reconciliation
