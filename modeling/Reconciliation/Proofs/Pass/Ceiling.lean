import Reconciliation.Proofs.Backoff
import Reconciliation.Proofs.Pass.Conclusion
import Reconciliation.Proofs.Text.Numeral
import Reconciliation.Store.Memory
/-!
# The ceiling of the delays

A delay that follows from a recorded status is at most the ceiling of the configuration. After a failed status write
the delay is one unit of the backoff instead, whatever the ceiling is, and the environment sets the two apart from
each other. So a recording comes back within the ceiling, except that a failed status write comes back after the
unit, which may be above it (`after_le_iff`). The write fails if the store refuses it or if the object cannot be
written (`Unrecorded`).
-/

namespace Reconciliation

namespace Duration

theorem ofSeconds_le_iff {n m : Nat} (hn : n < Nat.pow 2 64) : ofSeconds n ≤ ofSeconds m ↔ n ≤ m := by
  have hmax : maxNanos = 18446744073709551615999999999 := by decide
  have hrange : Nat.pow 2 64 = 18446744073709551616 := by decide
  rw [le_def, nanos_ofSeconds, nanos_ofSeconds, hmax, nanosPerSecond]
  omega

end Duration

namespace Configuration

theorem positive_lt (env : Environment) (name : String) {otherwise : Nat} (h : otherwise < Nat.pow 2 64) :
    positive env name otherwise < Nat.pow 2 64 := by
  rw [positive]
  split
  · exact h
  · exact h
  · rename_i n _ hread
    obtain ⟨s, -, hs⟩ := Option.bind_eq_some_iff.1 hread
    exact (Text.word64?_eq_some_iff.1 hs).2

theorem backoffBaseSeconds_lt (env : Environment) : (ofEnvironment env).backoffBaseSeconds < Nat.pow 2 64 :=
  positive_lt env _ (by decide)

/-- The two numbers of an environment compare like the times that they stand for. -/
theorem backoffBase_le_iff (env : Environment) :
    (ofEnvironment env).backoffBase ≤ (ofEnvironment env).backoffMax ↔
      (ofEnvironment env).backoffBaseSeconds ≤ (ofEnvironment env).backoffMaxSeconds :=
  Duration.ofSeconds_le_iff (backoffBaseSeconds_lt env)

end Configuration

namespace Backoff

theorem delay_le_max (b : Backoff) (seed : Duration) : b.delay seed ≤ b.max := by
  rw [Duration.le_def, delay, Duration.nanos_min]
  exact Nat.min_le_right _ _

theorem requeueDelay_le_max (b : Backoff) (now : Instant) (previous : Option Status) :
    b.requeueDelay now previous ≤ b.max :=
  b.delay_le_max _

end Backoff

namespace Conclusion

variable {σ : Type} {store : Store σ} {b : Backoff} {failure : Option String} {o : ManagedObject}
  {s : Surroundings σ}

/-- The status that is recorded of an object does not get into the store: the object that has it cannot be written, or
the store refuses it. -/
def Unrecorded (store : Store σ) (failure : Option String) (o : ManagedObject) (s : Surroundings σ) : Prop :=
  o.tracksStatus = true ∧ (∃ k, ObjectKey.of o = .ok k) ∧
    ((∃ cause, (o.withStatus (concluded s.clock failure)).toDynamic = .error cause) ∨
      ∃ d e, (o.withStatus (concluded s.clock failure)).toDynamic = .ok d ∧
        (store (.updateStatus d) s.store).1 = .error e)

theorem requeue_untracked {k : ObjectKey} (hk : ObjectKey.of o = .ok k) (ho : o.tracksStatus = false) :
    (Surroundings.run store (conclude b failure o) s).1.2 =
      if failure.isSome then .later (b.requeueDelay s.clock o.status?) else .done := by
  obtain ⟨reference, hreference⟩ := reference_of_key hk
  cases o with
  | tracked => cases ho
  | dynamic | builtin =>
    cases failure with
    | none =>
      rw [conclude, recordSuccess, hreference]
      rfl
    | some message =>
      rw [conclude, recordFailure, hreference]
      rfl

/-- A status that is not recorded is tried again after one unit. -/
theorem requeue_of_unrecorded (h : Unrecorded store failure o s) :
    (Surroundings.run store (conclude b failure o) s).1.2 = .later b.base := by
  obtain ⟨ho, ⟨k, hk⟩, ⟨cause, hd⟩ | ⟨d, e, hd, he⟩⟩ := h
  · obtain ⟨s', hrun, -⟩ := run_conclude_unwritable store (b := b) s failure hk ho hd
    rw [hrun]
  · obtain ⟨s', hrun, -⟩ := run_conclude_rejected store (b := b) s failure hk ho hd (Prod.ext he rfl)
    rw [hrun]

/-- Where no status fails to be recorded, the scheduler is told nothing, or the delay that follows from the status
before. -/
theorem requeue_of_not_unrecorded (h : ¬ Unrecorded store failure o s) :
    (Surroundings.run store (conclude b failure o) s).1.2 = .done ∨
      (Surroundings.run store (conclude b failure o) s).1.2 = .later (b.requeueDelay s.clock o.status?) := by
  cases hk : ObjectKey.of o with
  | error e =>
    rw [conclude_of_unidentified hk]
    exact .inl rfl
  | ok k =>
    suffices hrequeue : (Surroundings.run store (conclude b failure o) s).1.2 =
        if failure.isSome then .later (b.requeueDelay s.clock o.status?) else .done by
      rw [hrequeue]
      split_ifs
      · exact .inr rfl
      · exact .inl rfl
    cases ho : o.tracksStatus with
    | false => exact requeue_untracked hk ho
    | true =>
      cases hd : (o.withStatus (concluded s.clock failure)).toDynamic with
      | error cause => exact absurd ⟨ho, ⟨k, hk⟩, .inl ⟨cause, hd⟩⟩ h
      | ok d =>
        cases hanswer : (store (.updateStatus d) s.store).1 with
        | error e => exact absurd ⟨ho, ⟨k, hk⟩, .inr ⟨d, e, hd, hanswer⟩⟩ h
        | ok w =>
          obtain ⟨s', hrun, -⟩ := run_conclude_accepted store (b := b) s failure hk ho hd (Prod.ext hanswer rfl)
          rw [hrun]

theorem after_done_le (d : Duration) : Requeue.done.after ≤ d :=
  Nat.zero_le d.nanos

theorem after_le_of_not_unrecorded (h : ¬ Unrecorded store failure o s) :
    (Surroundings.run store (conclude b failure o) s).1.2.after ≤ b.max := by
  rcases requeue_of_not_unrecorded (b := b) h with hrequeue | hrequeue <;> rw [hrequeue]
  · exact after_done_le b.max
  · exact b.requeueDelay_le_max _ _

end Conclusion

namespace Reconciler

variable {σ : Type}

/-- The configured ceiling bounds what a recording tells the scheduler, except that a status that is not recorded is
tried again after the configured unit, and the unit may be above the ceiling. -/
theorem after_le_iff (env : Environment) (r : Reconciler) (store : Store σ) (s : Surroundings σ) (o : ManagedObject)
    (failure : Option String) :
    let c := Configuration.ofEnvironment env
    let requeue := (Surroundings.run store ((r.withConfiguration c).conclude o failure) s).1.2
    (Conclusion.Unrecorded store failure o s → requeue = .later c.backoffBase) ∧
      (requeue.after ≤ c.backoffMax ↔
        (Conclusion.Unrecorded store failure o s → c.backoffBaseSeconds ≤ c.backoffMaxSeconds)) := by
  intro c requeue
  have hunit : Conclusion.Unrecorded store failure o s → requeue = .later c.backoffBase := by
    intro h
    simp only [requeue, conclude_eq]
    exact Conclusion.requeue_of_unrecorded h
  refine ⟨hunit, ?_⟩
  by_cases h : Conclusion.Unrecorded store failure o s
  · rw [hunit h]
    simp only [h, true_imp_iff]
    exact Configuration.backoffBase_le_iff env
  · have hle : requeue.after ≤ c.backoffMax := by
      simp only [requeue, conclude_eq]
      exact Conclusion.after_le_of_not_unrecorded h
    exact ⟨fun _ hr => absurd hr h, fun _ => hle⟩

/-! ### A unit above the ceiling -/

def highUnit : Environment :=
  .ofList [("RECONCILE_BACKOFF_BASE_SECS", "100".toUTF8), ("RECONCILE_BACKOFF_MAX_SECS", "10".toUTF8)]

def fresh : Registry where
  metadata := { name := some "registry", nameSpace := some "quay" }
  replicas := 1
  status := none

/-- A failure whose status write is refused comes back after 100 seconds, under a ceiling of ten. -/
theorem after_refused_not_le :
    ¬ (Surroundings.run Memory.respond
        (((Reconciler.ofConfiguration .default).withConfiguration (.ofEnvironment highUnit)).conclude
          (.registry fresh) (some "disk full"))
        { store := { rejectsStatus := true }, clock := default }).1.2.after ≤
      (Configuration.ofEnvironment highUnit).backoffMax := by
  decide

end Reconciler

end Reconciliation
