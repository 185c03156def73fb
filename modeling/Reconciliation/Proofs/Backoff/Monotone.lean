import Reconciliation.Proofs.Backoff.Exact
/-!
# Delays are monotone

A delay gets no shorter when more time has passed since the last record, or when the unit or the ceiling is greater
(`requeueDelay_mono`). The rounding keeps the order, and what is too long to be counted becomes the longest duration, so
that the order is also kept where the computation changes its course. Nothing is assumed of the ceiling.
-/

namespace Reconciliation

namespace Duration

theorem le_refl (d : Duration) : d ≤ d :=
  Nat.le_refl _

theorem zero_le (d : Duration) : zero ≤ d :=
  Nat.zero_le _

theorem le_longest (d : Duration) : d ≤ longest :=
  d.le_maxNanos

theorem ofNanos_mono {m n : Nat} (h : m ≤ n) : ofNanos m ≤ ofNanos n := by
  rw [le_def, nanos_ofNanos, nanos_ofNanos]
  omega

end Duration

namespace Backoff

variable {b b' : Backoff} {now now' t t' : Instant} {s s' : Status}

theorem roundToSecond_mono {m n : Nat} (h : m ≤ n) : roundToSecond m ≤ roundToSecond n := by
  rw [roundToSecond_eq, roundToSecond_eq]
  exact Nat.mul_le_mul_right _ (Nat.div_le_div_right (by omega))

theorem roundElapsed_mono {m n : Int} (h : m ≤ n) : roundElapsed m ≤ roundElapsed n := by
  by_cases hneg : m < 0
  · rw [roundElapsed_of_neg hneg]
    exact Duration.zero_le _
  obtain ⟨m, rfl⟩ := Int.eq_ofNat_of_zero_le (Int.not_lt.1 hneg)
  obtain ⟨n, rfl⟩ := Int.eq_ofNat_of_zero_le (Int.le_trans (Int.natCast_nonneg m) h)
  have hround := roundToSecond_mono (Int.ofNat_le.1 h)
  rw [roundElapsed_natCast, roundElapsed_natCast]
  by_cases hn : roundToSecond n < Nat.pow 2 64
  · rw [if_pos (Nat.lt_of_le_of_lt hround hn), if_pos hn]
    exact Duration.ofNanos_mono hround
  · rw [if_neg hn]
    exact Duration.le_longest _

theorem delay_mono {seed seed' : Duration} (hmax : b.max ≤ b'.max) (hseed : seed ≤ seed') :
    b.delay seed ≤ b'.delay seed' := by
  rw [Duration.le_def] at *
  rw [nanos_delay, nanos_delay]
  omega

/-- The seed of a record that is no success is the time since then, whatever the unit is. -/
theorem seed_mono_since (hs : s.outcome ≠ .success) (hs' : s'.outcome ≠ .success) (ht : s.lastUpdate = some t)
    (ht' : s'.lastUpdate = some t') (h : now.since t ≤ now'.since t') : b.seed now s ≤ b'.seed now' s' := by
  rw [seed_of_recorded ht hs, seed_of_recorded ht' hs']
  exact roundElapsed_mono h

theorem fresh_or_recorded (s : Status) :
    (s.outcome = .success ∨ s.lastUpdate = none) ∨ ∃ t, s.lastUpdate = some t ∧ s.outcome ≠ .success := by
  cases hlast : s.lastUpdate with
  | none => exact .inl (.inr rfl)
  | some t =>
    by_cases h : s.outcome = .success
    · exact .inl (.inl h)
    · exact .inr ⟨t, rfl, h⟩

theorem seed_mono_now (h : now ≤ now') (hnow : now.isLeap = false) (hnow' : now'.isLeap = false)
    (hs : ∀ t ∈ s.lastUpdate, t.isLeap = false) : b.seed now s ≤ b.seed now' s := by
  rcases fresh_or_recorded s with hfresh | ⟨t, ht, hne⟩
  · rw [seed_of_fresh hfresh, seed_of_fresh hfresh]
    exact Duration.le_refl _
  · have hordinary := hs t ht
    refine seed_mono_since hne hne ht ht ?_
    rw [Instant.le_iff_sinceEpoch hnow hnow'] at h
    rw [Instant.since_eq_sub hordinary hnow, Instant.since_eq_sub hordinary hnow']
    omega

theorem seed_mono_base (h : b.base ≤ b'.base) (now : Instant) (s : Status) : b.seed now s ≤ b'.seed now s := by
  rcases fresh_or_recorded s with hfresh | ⟨t, ht, hne⟩
  · rw [seed_of_fresh hfresh, seed_of_fresh hfresh]
    exact h
  · exact seed_mono_since hne hne ht ht (Int.le_refl _)

/-- Between ordinary times a later one gives no shorter delay, and neither does an earlier record unless it is one of a
success. Between any times neither a greater unit nor a greater ceiling does, nor a greater seed. -/
theorem requeueDelay_mono (b : Backoff) :
    (∀ {now now' : Instant} (previous : Option Status), now ≤ now' → now.isLeap = false → now'.isLeap = false →
      (∀ s ∈ previous, ∀ t ∈ s.lastUpdate, t.isLeap = false) →
      b.requeueDelay now previous ≤ b.requeueDelay now' previous) ∧
    (∀ {s s' : Status} {t t' now : Instant}, s.outcome ≠ .success → s'.outcome ≠ .success → s.lastUpdate = some t →
      s'.lastUpdate = some t' → t ≤ t' → t.isLeap = false → t'.isLeap = false → now.isLeap = false →
      b.requeueDelay now (some s') ≤ b.requeueDelay now (some s)) ∧
    (∀ {b' : Backoff}, b.base ≤ b'.base → b.max ≤ b'.max → ∀ now previous,
      b.requeueDelay now previous ≤ b'.requeueDelay now previous) ∧
    ∀ {seed seed' : Duration}, seed ≤ seed' → b.delay seed ≤ b.delay seed' := by
  refine ⟨?_, ?_, ?_, delay_mono (Duration.le_refl _)⟩
  · intro now now' previous h hnow hnow' hprevious
    refine delay_mono (Duration.le_refl _) ?_
    cases previous with
    | none => exact Duration.le_refl _
    | some s => exact seed_mono_now h hnow hnow' (hprevious s rfl)
  · intro s s' t t' now hs hs' hlast hlast' h ht ht' hnow
    refine delay_mono (Duration.le_refl _) (seed_mono_since hs' hs hlast' hlast ?_)
    rw [Instant.le_iff_sinceEpoch ht ht'] at h
    rw [Instant.since_eq_sub ht' hnow, Instant.since_eq_sub ht hnow]
    omega
  · intro b' hbase hmax now previous
    refine delay_mono hmax ?_
    cases previous with
    | none => exact hbase
    | some s => exact seed_mono_base hbase now s

/-- The last ordinary instant that there is a date for. -/
def lastInstant : Instant := ⟨Instant.lastSecond, 999999999, by decide, Int.le_refl _, by decide⟩

/-- The order is kept up to times that are too far away to be counted. -/
theorem requeueDelay_mono_lastInstant :
    let b : Backoff := ⟨.zero, .longest⟩
    let previous : Option Status := some (.failure .epoch "disk full")
    b.requeueDelay midSecond previous ≤ b.requeueDelay lastInstant previous ∧
      b.requeueDelay lastInstant previous = .longest := by
  intro b previous
  have hlater : midSecond ≤ lastInstant := .inl (by decide)
  exact ⟨(requeueDelay_mono b).1 previous hlater rfl rfl isLeap_failureEpoch, by decide +kernel⟩

end Backoff

end Reconciliation
