import Reconciliation.Proofs.Backoff
/-!
# Exact delays

A delay is computed with durations that stop at the longest one and with nanoseconds that have to fit 64 bits. Under a
ceiling that fits 64 bits itself nothing of this is seen: the delay is twice the unit, or twice the elapsed time in the
nearest whole seconds, or the ceiling if that is less (`requeueDelay_exact`). A time that is too long to be counted is
beyond such a ceiling, and so is the longest duration that stands for it.
-/

namespace Reconciliation

namespace Backoff

variable {b : Backoff} {now t : Instant}

/-- So many whole seconds are nearest to some nanoseconds, and of two that are equally near they are the later ones. -/
structure NearestSeconds (nanos : Int) (n : Nat) : Prop where
  nearest : ∀ m : Nat, (nanos - n * nanosPerSecond).natAbs ≤ (nanos - m * nanosPerSecond).natAbs
  later : ∀ m : Nat, (nanos - n * nanosPerSecond).natAbs = (nanos - m * nanosPerSecond).natAbs → m ≤ n

theorem nearestSeconds_iff {nanos n : Nat} :
    NearestSeconds nanos n ↔ roundToSecond nanos = n * nanosPerSecond := by
  rw [roundToSecond_eq]
  constructor
  · rintro ⟨hnearest, hlater⟩
    have hle := hnearest ((2 * nanos + nanosPerSecond) / (2 * nanosPerSecond))
    have htie := hlater ((2 * nanos + nanosPerSecond) / (2 * nanosPerSecond))
    simp only [nanosPerSecond] at *
    omega
  · intro h
    constructor
    case nearest =>
      intro m
      simp only [nanosPerSecond] at *
      omega
    case later =>
      intro m htie
      simp only [nanosPerSecond] at *
      omega

theorem exists_nearestSeconds (nanos : Nat) :
    ∃ n, (∀ m, NearestSeconds nanos m ↔ m = n) ∧ roundToSecond nanos = n * nanosPerSecond := by
  have hround := roundToSecond_eq nanos
  have hpos : 0 < nanosPerSecond := by decide
  refine ⟨_, fun m => ?_, hround⟩
  rw [nearestSeconds_iff, hround, Nat.mul_left_inj (Nat.ne_of_gt hpos), eq_comm]

theorem roundElapsed_of_neg {nanos : Int} (h : nanos < 0) : roundElapsed nanos = .zero := by
  rw [roundElapsed, if_pos h]

theorem nanos_delay_roundElapsed (hmax : b.max.nanos < Nat.pow 2 64) (nanos : Nat) :
    (b.delay (roundElapsed nanos)).nanos = min (2 * roundToSecond nanos) b.max.nanos := by
  have hrange : Nat.pow 2 64 ≤ Duration.maxNanos := by decide
  rw [nanos_delay, roundElapsed_natCast]
  split
  · rw [Duration.nanos_ofNanos]
    omega
  · rw [Duration.nanos_longest]
    omega

theorem seed_of_recorded {s : Status} (ht : s.lastUpdate = some t) (h : s.outcome ≠ .success) :
    b.seed now s = roundElapsed (now.since t) := by
  rw [seed, ht]
  dsimp only
  rw [if_neg h]

/-- The nanoseconds that a delay comes to in whole numbers without bounds, from what was recorded last. -/
structure Exact (b : Backoff) (now : Instant) (previous : Option Status) (nanos : Nat) : Prop where
  fresh : (∀ s ∈ previous, s.outcome = .success ∨ s.lastUpdate = none) →
    nanos = min (2 * b.base.nanos) b.max.nanos
  ahead : ∀ s ∈ previous, ∀ t ∈ s.lastUpdate, s.outcome ≠ .success → now.sinceEpoch < t.sinceEpoch → nanos = 0
  elapsed : ∀ s ∈ previous, ∀ t ∈ s.lastUpdate, s.outcome ≠ .success → t.sinceEpoch ≤ now.sinceEpoch →
    ∃ n, (∀ m, NearestSeconds (now.sinceEpoch - t.sinceEpoch) m ↔ m = n) ∧
      nanos = min (2 * (n * nanosPerSecond)) b.max.nanos

/-- Between ordinary times, delays under a ceiling that fits 64 bits of nanoseconds are exact. -/
theorem requeueDelay_exact (hmax : b.max.nanos < Nat.pow 2 64) (hnow : now.isLeap = false) {previous : Option Status}
    (hprevious : ∀ s ∈ previous, ∀ t ∈ s.lastUpdate, t.isLeap = false) :
    Exact b now previous (b.requeueDelay now previous).nanos where
  fresh hfresh := by
    cases previous with
    | none => exact nanos_delay b b.base
    | some s => rw [requeueDelay, seed_of_fresh (hfresh s rfl), nanos_delay]
  ahead := by
    rintro s rfl t ht hne hlater
    have hneg : now.since t < 0 := by
      rw [Instant.since_eq_sub (hprevious s rfl t ht) hnow]
      omega
    rw [requeueDelay, seed_of_recorded ht hne, roundElapsed_of_neg hneg, nanos_delay, Duration.nanos_zero]
    omega
  elapsed := by
    rintro s rfl t ht hne hearlier
    obtain ⟨nanos, hnanos⟩ := Int.eq_ofNat_of_zero_le (Int.sub_nonneg.2 hearlier)
    obtain ⟨n, hnearest, hround⟩ := exists_nearestSeconds nanos
    refine ⟨n, by rwa [hnanos], ?_⟩
    rw [requeueDelay, seed_of_recorded ht hne, Instant.since_eq_sub (hprevious s rfl t ht) hnow, hnanos,
      nanos_delay_roundElapsed hmax, hround]

/-- Two seconds and a half into 1970. -/
def midSecond : Instant := ⟨2, 500000000, by decide, by decide, by decide⟩

theorem isLeap_failureEpoch :
    ∀ s ∈ some (Status.failure .epoch "disk full"), ∀ t ∈ s.lastUpdate, t.isLeap = false := by
  intro s hs t ht
  cases hs
  cases ht
  rfl

/-- Half a second is rounded up before it is doubled. -/
theorem requeueDelay_exact_midSecond :
    (default.requeueDelay midSecond (some (.failure .epoch "disk full"))).nanos = 6 * nanosPerSecond := by
  have hexact : Exact default midSecond (some (.failure .epoch "disk full")) _ :=
    requeueDelay_exact (by decide) rfl isLeap_failureEpoch
  obtain ⟨n, hnearest, hnanos⟩ := hexact.elapsed _ rfl _ rfl (by decide) (by decide)
  have hthree : n = 3 := by
    refine ((hnearest 3).1 ?_).symm
    rw [show midSecond.sinceEpoch - Instant.epoch.sinceEpoch = (2500000000 : Nat) from rfl, nearestSeconds_iff]
    rfl
  rw [hnanos, hthree]
  rfl

end Backoff

end Reconciliation
