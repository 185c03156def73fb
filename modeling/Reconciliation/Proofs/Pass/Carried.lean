import Reconciliation.Proofs.Pass.Visit
/-!
# The status in hand and the stored one

A visit sets its status on the object before it writes it, and the object keeps the status when the write is
refused. So the object in hand agrees with the store after a visit exactly if the write was accepted, at a time that
is read as it was written, or if the same status was stored already (`agrees_after_iff`). The delay of a later failure
is reckoned from the status in hand, be it stored or not.
-/

namespace Reconciliation

namespace Tended

variable {b : Backoff} {k : ObjectKey} {t : Tended} {v : Visit} {visits : List Visit}

/-- An object that tracks its status and is stored under an identity with a payload that has fields. -/
structure Kept (k : ObjectKey) (t : Tended) : Prop where
  tracks : t.object.tracksStatus = true
  key : ObjectKey.of t.object = .ok k
  stored : ∃ w, t.surroundings.store.stored k = some w ∧ w.HasFields

/-- The status that a reader of the store finds. -/
def recorded? (k : ObjectKey) (t : Tended) : Option Status :=
  Status.recorded? (t.surroundings.store.statusAt k.path)

/-- The object in hand has the status that a reader of the store finds. -/
def Agrees (k : ObjectKey) (t : Tended) : Prop :=
  t.recorded? k = t.object.status?

theorem Kept.after (ht : Kept k t) (h : Undisturbed k t v) : Kept k (t.after b v) := by
  obtain ⟨htracks, hkey, -⟩ := tracksStatus_after b ht.tracks ht.key v
  refine ⟨htracks, hkey, ?_⟩
  obtain ⟨w, hw, hfields⟩ := ht.stored
  by_cases haccepts : t.Accepts v
  · obtain ⟨old, d, w', hold, -, rfl, hstored, -⟩ := after_accepted b ht.tracks ht.key haccepts
    rw [stored_found h, hw] at hold
    cases hold
    exact ⟨_, hstored, Memory.hasFields_restatedObject hfields d _⟩
  · obtain ⟨hobjects, -⟩ := after_rejected b ht.tracks ht.key haccepts
    refine ⟨w, ?_, hfields⟩
    rw [Memory.stored, hobjects, ← hw]
    exact stored_found h

theorem Kept.afterAll (ht : Kept k t) (h : UndisturbedAll b k t visits) : Kept k (t.afterAll b visits) := by
  induction visits generalizing t with
  | nil => exact ht
  | cons v visits ih =>
    refine ih (ht.after (h [] v visits rfl)) ?_
    rintro before u rest rfl
    exact h (v :: before) u rest rfl

theorem statusAt_of_accepts (ht : Kept k t) (h : Undisturbed k t v) (haccepts : t.Accepts v) :
    (t.after b v).recorded? k = some v.status.settled := by
  obtain ⟨w, hw, hfields⟩ := ht.stored
  obtain ⟨old, d, w', hold, hd, rfl, hstored, -⟩ := after_accepted b ht.tracks ht.key haccepts
  rw [stored_found h, hw] at hold
  cases hold
  have hstatus := (Memory.status?_restatedObject_iff w d (t.found v).nextVersion).2 (.inl hfields)
  rw [Memory.stored] at hstored
  rw [recorded?, Memory.statusAt, hstored, Option.bind_some, hstatus, hd, Status.recorded?_field]

theorem recorded?_of_not_accepts (ht : Kept k t) (h : Undisturbed k t v) (haccepts : ¬ t.Accepts v) :
    (t.after b v).recorded? k = t.recorded? k := by
  obtain ⟨hobjects, -⟩ := after_rejected b ht.tracks ht.key haccepts
  have hfound : (t.found v).objects.find? k.path = t.surroundings.store.objects.find? k.path :=
    stored_found h
  rw [recorded?, recorded?, Memory.statusAt, Memory.statusAt, hobjects, hfound]

theorem settled_status_iff : v.status.settled = v.status ↔ v.clock.overruns = false := by
  have hlast : v.status.lastUpdate = some v.clock := by
    obtain ⟨clock, failure, meanwhile⟩ := v
    cases failure <;> rfl
  rw [Status.settled_eq_self_iff, hlast]
  simp

theorem agrees_after_iff (ht : Kept k t) (h : Undisturbed k t v) :
    Agrees k (t.after b v) ↔ (t.Accepts v ∧ v.clock.overruns = false) ∨ t.recorded? k = some v.status := by
  obtain ⟨-, -, hstatus⟩ := tracksStatus_after b ht.tracks ht.key v
  rw [Agrees, hstatus]
  by_cases haccepts : t.Accepts v
  · rw [statusAt_of_accepts ht h haccepts, Option.some_inj, settled_status_iff]
    -- A status that was stored already was read, so its time is read as it was written.
    have hstored : t.recorded? k = some v.status → v.clock.overruns = false := fun hrecorded =>
      settled_status_iff.1 (Status.settled_of_recorded? hrecorded)
    simp only [haccepts, true_and, or_iff_left_of_imp hstored]
  · simp only [recorded?_of_not_accepts ht h haccepts, haccepts, false_and, false_or]

/-- After any visits the object in hand has the status of the last one. It agrees with the store exactly if that
one was accepted, at a time that is read as it was written, or if the same status was stored already. The status from
which the delay of a failure is reckoned is a stored one if the visit before it was accepted so. -/
theorem agrees_afterAll (b : Backoff) {k : ObjectKey} {t : Tended} (ht : Kept k t) (hagrees : Agrees k t)
    {visits : List Visit} {v : Visit} (hquiet : UndisturbedAll b k t (visits ++ [v])) :
    let held := t.afterAll b visits
    (held.after b v).object.status? = some v.status ∧
    (Agrees k (held.after b v) ↔
      (held.Accepts v ∧ v.clock.overruns = false) ∨ held.recorded? k = some v.status) ∧
    (¬ held.Accepts v →
      (held.after b v).recorded? k = held.recorded? k ∧ held.requeue b v = .later b.base) ∧
    (held.Accepts v → held.requeue b v =
      if v.failure.isSome then .later (b.requeueDelay v.clock held.object.status?) else .done) ∧
    ((∀ before u, visits = before ++ [u] → (t.afterAll b before).Accepts u ∧ u.clock.overruns = false) →
      Agrees k held) := by
  intro held
  have hheld : Kept k held := ht.afterAll hquiet.of_append
  have hlast : Undisturbed k held v := hquiet.last
  refine ⟨?_, agrees_after_iff hheld hlast, ?_, ?_, ?_⟩
  · exact (tracksStatus_after b hheld.tracks hheld.key v).2.2
  · intro hrejected
    obtain ⟨-, -, hrequeue⟩ := after_rejected b hheld.tracks hheld.key hrejected
    exact ⟨recorded?_of_not_accepts hheld hlast hrejected, hrequeue⟩
  · intro haccepted
    obtain ⟨-, -, -, -, -, -, -, -, hrequeue⟩ := after_accepted b hheld.tracks hheld.key haccepted
    exact hrequeue
  · intro haccepted
    rcases List.eq_nil_or_concat' visits with rfl | ⟨before, u, rfl⟩
    · exact hagrees
    · have hbefore : Kept k (t.afterAll b before) := ht.afterAll hquiet.of_append.of_append
      have hagree := agrees_after_iff (b := b) hbefore hquiet.of_append.last
      rw [← afterAll_concat] at hagree
      exact hagree.2 (.inl (haccepted before u rfl))

/-! ### A registry whose status cannot be written for a while -/

def recordedSuccess : Visit := ⟨second 0, none, []⟩

/-- A failure a minute later, while status writes are rejected. -/
def missedFailure : Visit := ⟨second 60, some "disk full", [.rejectStatus true]⟩

/-- Another failure a minute later, when status writes are accepted again. -/
def laterFailure : Visit := ⟨second 120, some "disk full", [.rejectStatus false]⟩

theorem kept_tendedRegistry : Kept registryKey tendedRegistry where
  tracks := rfl
  key := rfl
  stored := ⟨_, rfl, _, rfl⟩

theorem undisturbed_of_reject {rejects : Bool} {clock : Instant} {failure : Option String} :
    Undisturbed k t ⟨clock, failure, [.rejectStatus rejects]⟩ :=
  undisturbed_of_no_calls (by simp)

theorem undisturbed_recordedSuccess : Undisturbed k t recordedSuccess :=
  undisturbed_of_no_calls (by simp [recordedSuccess])

theorem agrees_afterAll_missed :
    let held := tendedRegistry.after .default recordedSuccess
    Agrees registryKey held ∧ held.requeue .default missedFailure = .later (.ofSeconds 1) ∧
      (held.after .default missedFailure).object.status? = some missedFailure.status ∧
      (held.after .default missedFailure).recorded? registryKey = held.recorded? registryKey := by
  intro held
  have hquiet : UndisturbedAll .default registryKey tendedRegistry ([recordedSuccess] ++ [missedFailure]) := by
    refine undisturbedAll_of_no_calls ?_
    simp [recordedSuccess, missedFailure]
  obtain ⟨hstatus, -, hrejected, -, hagrees⟩ := agrees_afterAll .default kept_tendedRegistry rfl hquiet
  have haccepts : tendedRegistry.Accepts recordedSuccess :=
    current_tendedRegistry.accepts undisturbed_recordedSuccess rfl
  have hheld : Current registryKey held := current_tendedRegistry.after undisturbed_recordedSuccess
  have hrejects : ¬ held.Accepts missedFailure := not_accepts_of_rejects hheld.key rfl
  obtain ⟨hrecorded, hrequeue⟩ := hrejected hrejects
  refine ⟨hagrees ?_, hrequeue, hstatus, hrecorded⟩
  intro before u hsplit
  cases before with
  | nil =>
    cases hsplit
    exact ⟨haccepts, rfl⟩
  | cons first rest => simp at hsplit

/-- The failure that was missed stays in hand, a reader of the store finds the success before it, and the next
failure waits twice the time since the missed one. -/
theorem missedFailure_unrecorded :
    let held := tendedRegistry.after .default recordedSuccess
    let missed := held.after .default missedFailure
    Agrees registryKey tendedRegistry ∧ Agrees registryKey held ∧
      missed.object.status? = some missedFailure.status ∧
      missed.recorded? registryKey = some recordedSuccess.status ∧ ¬ Agrees registryKey missed ∧
      missed.requeue .default laterFailure = .later (.ofSeconds 120) ∧
      Backoff.default.requeueDelay laterFailure.clock (missed.recorded? registryKey) = .ofSeconds 2 := by
  intro held missed
  have hcurrent : Current registryKey tendedRegistry := current_tendedRegistry
  have hheld : Current registryKey held := hcurrent.after undisturbed_recordedSuccess
  have hmissed : Current registryKey missed := hheld.after undisturbed_of_reject
  have hkept : Kept registryKey held := kept_tendedRegistry.after undisturbed_recordedSuccess
  have haccepts : tendedRegistry.Accepts recordedSuccess := hcurrent.accepts undisturbed_recordedSuccess rfl
  have hrejects : ¬ held.Accepts missedFailure := not_accepts_of_rejects hheld.key rfl
  have hlater : missed.Accepts laterFailure := hmissed.accepts undisturbed_of_reject rfl
  have hrecorded : held.recorded? registryKey = some recordedSuccess.status :=
    statusAt_of_accepts kept_tendedRegistry undisturbed_recordedSuccess haccepts
  have hstill : missed.recorded? registryKey = some recordedSuccess.status :=
    (recorded?_of_not_accepts hkept undisturbed_of_reject hrejects).trans hrecorded
  have hstatus : missed.object.status? = some missedFailure.status :=
    (tracksStatus_after .default hheld.tracks hheld.key missedFailure).2.2
  obtain ⟨-, -, -, -, -, -, -, -, hrequeue⟩ :=
    after_accepted .default hmissed.tracks hmissed.key hlater
  refine ⟨rfl, ?_, hstatus, hstill, ?_, ?_, ?_⟩
  · exact (agrees_after_iff kept_tendedRegistry undisturbed_recordedSuccess).2 (.inl ⟨haccepts, rfl⟩)
  · rw [Agrees, hstill, hstatus]
    decide
  · rw [hrequeue, hstatus]
    rfl
  · rw [hstill]
    rfl

end Tended

end Reconciliation
