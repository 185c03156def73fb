import Mathlib.Data.List.Induction
import Reconciliation.Proofs.Backoff
import Reconciliation.Proofs.Pass.Visit
/-!
# Failures on schedule

No failures are counted, but a controller that comes back exactly when its delay is over waits as if they were: after
the `n`-th failure in a row the delay is the unit doubled `n` times, up to the ceiling (`requeue_of_onSchedule`). What
carries this through a run is that the failure in hand is as old as the delay that was returned for it (`Paced`).
-/

namespace Reconciliation

namespace Tended

variable {b : Backoff} {c : Configuration} {k : ObjectKey} {t : Tended} {v : Visit} {visits : List Visit} {n : Nat}

/-- How many failures were recorded in a row after a visit. A success starts the count again, and so does a write
that the store rejects. -/
def counted (t : Tended) (n : Nat) (v : Visit) : Nat :=
  if v.failure.isSome && !(t.found v).rejectsStatus then n + 1 else 0

theorem counted_of_success (hsuccess : v.failure = none) : t.counted n v = 0 := by
  rw [counted, hsuccess]
  rfl

theorem counted_of_rejects (hrejects : (t.found v).rejectsStatus = true) : t.counted n v = 0 := by
  rw [counted, hrejects, Bool.not_true, Bool.and_false]
  rfl

theorem counted_of_accepts (hfailure : v.failure.isSome) (haccepts : (t.found v).rejectsStatus = false) :
    t.counted n v = n + 1 := by
  rw [counted, hfailure, haccepts]
  rfl

/-- How many failures were recorded in a row after some visits, counted on from `n`. -/
def streak (b : Backoff) (t : Tended) (n : Nat) : List Visit → Nat
  | [] => n
  | v :: visits => streak b (t.after b v) (t.counted n v) visits

theorem streak_concat (b : Backoff) (t : Tended) (n : Nat) (visits : List Visit) (v : Visit) :
    streak b t n (visits ++ [v]) = (t.afterAll b visits).counted (streak b t n visits) v := by
  induction visits generalizing t n with
  | nil => rfl
  | cons u visits ih => exact ih (t.after b u) (t.counted n u)

/-- Nobody else changes the stored object. A failure right after another one comes exactly when the delay that was
returned for that one is over, and any other failure comes at an ordinary time. -/
structure OnSchedule (b : Backoff) (k : ObjectKey) (t : Tended) (visits : List Visit) : Prop where
  undisturbed : UndisturbedAll b k t visits
  ordinary : ∀ before v rest, visits = before ++ v :: rest → v.failure.isSome →
    (∀ u ∈ before.getLast?, u.failure = none) → v.clock.isLeap = false
  punctual : ∀ before u v rest, visits = before ++ u :: v :: rest → u.failure.isSome → v.failure.isSome →
    u.clock.shift? ((t.afterAll b before).requeue b u).after.nanos = some v.clock

theorem OnSchedule.of_append {visits' : List Visit} (h : OnSchedule b k t (visits ++ visits')) :
    OnSchedule b k t visits where
  undisturbed := h.undisturbed.of_append
  ordinary := by
    rintro before v rest rfl
    exact h.ordinary before v (rest ++ visits') (by simp)
  punctual := by
    rintro before u v rest rfl
    exact h.punctual before u v (rest ++ visits') (by simp)

/-- The status of an object from which the first failure is reckoned. -/
def Fresh (o : ManagedObject) : Prop :=
  ∀ s, o.status? = some s → s.outcome = .success ∨ s.lastUpdate = none

/-- What holds between two visits on schedule. Either the object is as good as new, or its status is a failure at
an ordinary time, and the delay returned for it belongs to the number of failures so far. -/
structure Paced (c : Configuration) (k : ObjectKey) (t : Tended) (visits : List Visit) : Prop where
  current : Current k (t.afterAll (.ofConfiguration c) visits)
  fresh : (∀ u ∈ visits.getLast?, u.failure = none) →
    streak (.ofConfiguration c) t 0 visits = 0 ∧ Fresh (t.afterAll (.ofConfiguration c) visits).object
  recent : ∀ before u message, visits = before ++ [u] → u.failure = some message → u.clock.isLeap = false ∧
    (t.afterAll (.ofConfiguration c) visits).object.status? = some (.failure u.clock message) ∧
    (t.afterAll (.ofConfiguration c) before).requeue (.ofConfiguration c) u =
      .later (.ofSeconds (Backoff.waitSeconds c (streak (.ofConfiguration c) t 0 visits)))

theorem paced_nil (ht : Current k t) (hfresh : Fresh t.object) : Paced c k t [] where
  current := ht
  fresh := fun _ => ⟨rfl, hfresh⟩
  recent := by
    intro before u message hsplit
    simp at hsplit

/-- A failure on schedule comes at an ordinary time and has the next delay, if its status is written. -/
theorem Paced.next (hmax : c.backoffMaxSeconds * nanosPerSecond < Nat.pow 2 64) (h : Paced c k t visits)
    (hrun : OnSchedule (.ofConfiguration c) k t (visits ++ [v])) (hv : v.failure.isSome) :
    v.clock.isLeap = false ∧
      (Backoff.ofConfiguration c).requeueDelay v.clock (t.afterAll (.ofConfiguration c) visits).object.status? =
        .ofSeconds (Backoff.waitSeconds c (streak (.ofConfiguration c) t 0 visits + 1)) := by
  by_cases hlast : ∀ u ∈ visits.getLast?, u.failure = none
  -- One unit is doubled, whatever the time is.
  · obtain ⟨hstreak, hfresh⟩ := h.fresh hlast
    obtain ⟨previous, hstatus⟩ := ManagedObject.exists_status? h.current.tracks
    refine ⟨hrun.ordinary visits v [] rfl hv hlast, ?_⟩
    rw [hstreak, hstatus]
    exact Backoff.requeueDelay_fresh (hfresh _ hstatus) v.clock
  -- The failure in hand is as old as the delay that was returned for it.
  · push Not at hlast
    obtain ⟨u, hu, hfailure⟩ := hlast
    obtain ⟨before, rfl⟩ := List.getLast?_eq_some_iff.1 hu
    obtain ⟨message, hmessage⟩ := Option.ne_none_iff_exists'.1 hfailure
    obtain ⟨hordinary, hstatus, hrequeue⟩ := h.recent before u message rfl hmessage
    have hclock := hrun.punctual before u v [] (by simp) (by simp [hmessage]) hv
    rw [hrequeue] at hclock
    refine ⟨Instant.isLeap_of_shift? hordinary hclock, ?_⟩
    rw [hstatus]
    exact Backoff.requeueDelay_of_shift? hmax hordinary hclock message

/-- A visit on schedule is over for good if it is a success that the store accepts, and waits according to the
failures in a row after it otherwise. -/
theorem Paced.requeue (hmax : c.backoffMaxSeconds * nanosPerSecond < Nat.pow 2 64) (h : Paced c k t visits)
    (hrun : OnSchedule (.ofConfiguration c) k t (visits ++ [v])) :
    (t.afterAll (.ofConfiguration c) visits).requeue (.ofConfiguration c) v =
      if v.failure = none ∧ ((t.afterAll (.ofConfiguration c) visits).found v).rejectsStatus = false then .done
      else .later (.ofSeconds (Backoff.waitSeconds c (streak (.ofConfiguration c) t 0 (visits ++ [v])))) := by
  have hquiet : Undisturbed k (t.afterAll (.ofConfiguration c) visits) v := hrun.undisturbed.last
  rw [streak_concat]
  cases hrejects : ((t.afterAll (.ofConfiguration c) visits).found v).rejectsStatus with
  | true =>
    have hrejected := not_accepts_of_rejects h.current.key hrejects
    obtain ⟨-, -, hrequeue⟩ := after_rejected (.ofConfiguration c) h.current.tracks h.current.key hrejected
    rw [hrequeue, counted_of_rejects hrejects, if_neg (by simp)]
    rfl
  | false =>
    have haccepted := h.current.accepts hquiet hrejects
    obtain ⟨-, -, -, -, -, -, -, -, hrequeue⟩ :=
      after_accepted (.ofConfiguration c) h.current.tracks h.current.key haccepted
    rw [hrequeue]
    cases hfailure : v.failure with
    | none => rfl
    | some message =>
      have hsome : v.failure.isSome := by rw [hfailure]; rfl
      obtain ⟨-, hdelay⟩ := h.next hmax hrun hsome
      rw [counted_of_accepts hsome hrejects, hdelay]
      rfl

theorem Paced.concat (hmax : c.backoffMaxSeconds * nanosPerSecond < Nat.pow 2 64) (h : Paced c k t visits)
    (hrun : OnSchedule (.ofConfiguration c) k t (visits ++ [v])) : Paced c k t (visits ++ [v]) := by
  have hstatus : (t.afterAll (.ofConfiguration c) (visits ++ [v])).object.status? = some v.status := by
    rw [afterAll_concat]
    exact (tracksStatus_after _ h.current.tracks h.current.key v).2.2
  refine ⟨?_, ?_, ?_⟩
  · rw [afterAll_concat]
    exact h.current.after hrun.undisturbed.last
  · intro hlast
    have hsuccess : v.failure = none := hlast v (by simp)
    refine ⟨?_, ?_⟩
    · rw [streak_concat, counted_of_success hsuccess]
    · intro s hs
      rw [hstatus] at hs
      cases hs
      left
      rw [Visit.status, hsuccess]
      rfl
  · intro before u message hsplit hmessage
    obtain ⟨rfl, hu⟩ := List.append_inj' hsplit rfl
    cases hu
    obtain ⟨hordinary, -⟩ := h.next hmax hrun (by simp [hmessage])
    refine ⟨hordinary, ?_, ?_⟩
    · rw [hstatus, Visit.status, hmessage]
    · rw [h.requeue hmax hrun, if_neg (by simp [hmessage])]

theorem paced_of_onSchedule (hmax : c.backoffMaxSeconds * nanosPerSecond < Nat.pow 2 64) (ht : Current k t)
    (hfresh : Fresh t.object) (hrun : OnSchedule (.ofConfiguration c) k t visits) : Paced c k t visits := by
  induction visits using List.reverseRecOn with
  | nil => exact paced_nil ht hfresh
  | append_singleton visits v ih => exact (ih hrun.of_append).concat hmax hrun

/-- **The `n`-th failure in a row on schedule waits for the unit doubled `n` times, up to the ceiling.** A success
ends the row and waits for nothing. A recording whose status is not accepted ends it too, and waits for the unit. -/
theorem requeue_of_onSchedule (hmax : c.backoffMaxSeconds * nanosPerSecond < Nat.pow 2 64) (ht : Current k t)
    (hfresh : Fresh t.object) (hrun : OnSchedule (.ofConfiguration c) k t (visits ++ [v])) :
    let b := Backoff.ofConfiguration c
    let held := t.afterAll b visits
    let n := streak b t 0 visits
    ((held.found v).rejectsStatus = false → v.failure = none → held.requeue b v = .done) ∧
    ((held.found v).rejectsStatus = false → v.failure.isSome → held.requeue b v =
      .later (.ofSeconds (min (2 ^ (n + 1) * c.backoffBaseSeconds) c.backoffMaxSeconds))) ∧
    ((held.found v).rejectsStatus = true → held.requeue b v = .later (.ofSeconds c.backoffBaseSeconds)) := by
  intro b held n
  have hrequeue := (paced_of_onSchedule hmax ht hfresh hrun.of_append).requeue hmax hrun
  rw [streak_concat] at hrequeue
  refine ⟨?_, ?_, ?_⟩
  · intro haccepts hsuccess
    rw [hrequeue, if_pos ⟨hsuccess, haccepts⟩]
  · intro haccepts hfailure
    have hnot : v.failure ≠ none := Option.isSome_iff_ne_none.1 hfailure
    rw [hrequeue, if_neg fun h => hnot h.1, counted_of_accepts hfailure haccepts]
    rfl
  · intro hrejects
    rw [hrequeue, if_neg fun h => Bool.eq_false_iff.1 h.2 hrejects, counted_of_rejects hrejects]
    rfl

/-! ### A registry that fails twice in a row -/

/-- A failure so many seconds after the beginning of 1970. -/
def failureAt (n : Fin 1000) : Visit := ⟨second n, some "disk full", []⟩

theorem fresh_tendedRegistry : Fresh tendedRegistry.object := by
  intro s hs
  cases hs
  exact .inr rfl

theorem onSchedule_failureAt : OnSchedule b registryKey tendedRegistry ([] ++ [failureAt 0]) where
  undisturbed := undisturbedAll_of_no_calls (by simp [failureAt])
  ordinary := by
    intro before v rest hsplit hv hlast
    cases before with
    | nil =>
      cases hsplit
      rfl
    | cons u before => simp at hsplit
  punctual := by
    intro before u v rest hsplit
    have hlength := congrArg List.length hsplit
    simp at hlength
    omega

/-- The second failure comes when the two seconds are over that the first one waits for. -/
theorem onSchedule_failuresAt
    (h : tendedRegistry.requeue .default (failureAt 0) = .later (.ofSeconds 2)) :
    OnSchedule .default registryKey tendedRegistry ([failureAt 0] ++ [failureAt 2]) where
  undisturbed := undisturbedAll_of_no_calls (by simp [failureAt])
  ordinary := by
    intro before v rest hsplit hv hlast
    match before with
    | [] =>
      cases hsplit
      rfl
    | [u] =>
      cases hsplit
      exact nomatch hlast (failureAt 0) rfl
    | u :: u' :: before => simp at hsplit
  punctual := by
    intro before u v rest hsplit hu hv
    cases before with
    | nil =>
      cases hsplit
      rw [afterAll_nil, h]
      rfl
    | cons u before =>
      have hlength := congrArg List.length hsplit
      simp at hlength
      omega

theorem requeue_of_onSchedule_twice :
    OnSchedule .default registryKey tendedRegistry ([failureAt 0] ++ [failureAt 2]) ∧
      tendedRegistry.requeue .default (failureAt 0) = .later (.ofSeconds 2) ∧
      (tendedRegistry.after .default (failureAt 0)).requeue .default (failureAt 2) = .later (.ofSeconds 4) := by
  have hmax : Configuration.default.backoffMaxSeconds * nanosPerSecond < Nat.pow 2 64 := by decide
  obtain ⟨-, hfirst, -⟩ :=
    requeue_of_onSchedule hmax current_tendedRegistry fresh_tendedRegistry onSchedule_failureAt
  have hwait : tendedRegistry.requeue .default (failureAt 0) = .later (.ofSeconds 2) := hfirst rfl rfl
  have hrun : OnSchedule .default registryKey tendedRegistry ([failureAt 0] ++ [failureAt 2]) :=
    onSchedule_failuresAt hwait
  obtain ⟨-, hsecond, -⟩ :=
    requeue_of_onSchedule hmax current_tendedRegistry fresh_tendedRegistry hrun
  have haccepts : ((tendedRegistry.after .default (failureAt 0)).found (failureAt 2)).rejectsStatus = false := rfl
  exact ⟨hrun, hwait, hsecond haccepts rfl⟩

end Tended

end Reconciliation
