import Reconciliation.Pass.Surroundings
import Reconciliation.Proofs.Resource.Tracked
import Reconciliation.Reconciler
/-!
# Recording the end of a pass over any store

A recording makes one store call at most, its status write, and only for an object that is identified, tracks its
status and can be written. What it returns is decided by whether the store accepts that write. An object that cannot be
written is not handed to the store, and that counts like a refusal.
-/

namespace Reconciliation

namespace ManagedObject

/-- The store files an object under the identity that it has without its new status. -/
theorem storeKey_toDynamic_withStatus {o : ManagedObject} {s : Status} {d : DynamicObject}
    {k : ObjectKey} (h : (o.withStatus s).toDynamic = .ok d) : storeKey d = .ok k ↔ ObjectKey.of o = .ok k := by
  rw [storeKey, ofDynamic_toDynamic h, key_withStatus]
  cases ObjectKey.of o <;> simp

end ManagedObject

namespace Surroundings

variable {σ α β : Type} (store : Store σ)

theorem run_andThen (p : Pass α) (f : α → Pass β) (s : Surroundings σ) :
    run store (Dialogue.andThen p f) s = run store (f (run store p s).1) (run store p s).2 :=
  Dialogue.run_andThen _ p f s

theorem run_notify (n : Notice) (next : Unit → Pass α) (s : Surroundings σ) :
    run store (Dialogue.andThen (Pass.notify n) next) s =
      run store (next ()) { s with notices := s.notices ++ [n] } := rfl

theorem run_now (next : Instant → Pass α) (s : Surroundings σ) :
    run store (Dialogue.andThen Pass.now next) s = run store (next s.clock) s := rfl

end Surroundings

namespace Conclusion

variable {σ : Type} (store : Store σ) {b : Backoff} {o o' : ManagedObject} {status : Status} {s : Surroundings σ}
  {d w : DynamicObject} {t : σ} {e : StoreError} {reference : ObjectReference} {k : ObjectKey}

/-- The recording of a failure with its message, or of a success. -/
def conclude (b : Backoff) (failure : Option String) (o : ManagedObject) : Pass (ManagedObject × Requeue) :=
  match failure with
  | some message => recordFailure b o message
  | none => recordSuccess b o

/-- The status that is recorded at some time. -/
def concluded (clock : Instant) : Option String → Status
  | some message => .failure clock message
  | none => .success clock

/-! ### The status write -/

theorem run_updateStatus (d : DynamicObject) (s : Surroundings σ) :
    Surroundings.run store (Pass.updateStatus d) s =
      ((store (.updateStatus d) s.store).1, { s with store := (store (.updateStatus d) s.store).2 }) := rfl

/-- What follows the answer of the store to a status write. -/
def afterStatusWrite (o : ManagedObject) :
    Except StoreError DynamicObject → Pass (ManagedObject × Except ReconcileError Unit)
  | .ok stored => return (Synchronize.adopt o stored, .ok ())
  | .error e => do
    Pass.measure .statusWriteFailure
    return (o, .error (.statusPersist e))

theorem writeStatus_of_toDynamic (ho : o.tracksStatus = true) (hd : (o.withStatus status).toDynamic = .ok d) :
    writeStatus o status = Pass.updateStatus d >>= afterStatusWrite (o.withStatus status) := by
  simp only [writeStatus, ho, Bool.not_true, Bool.false_eq_true, if_false, hd]
  rfl

theorem writeStatus_of_unwritable {e : ResourceError} (ho : o.tracksStatus = true)
    (hd : (o.withStatus status).toDynamic = .error e) :
    writeStatus o status = .done (o.withStatus status, .error (.typeMismatch e)) := by
  simp only [writeStatus, ho, Bool.not_true, Bool.false_eq_true, if_false, hd]
  rfl

theorem run_writeStatus_accepted (ho : o.tracksStatus = true) (hd : (o.withStatus status).toDynamic = .ok d)
    (h : store (.updateStatus d) s.store = (.ok w, t)) :
    Surroundings.run store (writeStatus o status) s =
      ((Synchronize.adopt (o.withStatus status) w, .ok ()), { s with store := t }) := by
  rw [writeStatus_of_toDynamic ho hd, Dialogue.bind_eq, Surroundings.run_andThen, run_updateStatus, h]
  rfl

theorem run_writeStatus_rejected (ho : o.tracksStatus = true) (hd : (o.withStatus status).toDynamic = .ok d)
    (h : store (.updateStatus d) s.store = (.error e, t)) :
    Surroundings.run store (writeStatus o status) s =
      ((o.withStatus status, .error (.statusPersist e)),
        { s with store := t, metrics := s.metrics ++ [.statusWriteFailure] }) := by
  rw [writeStatus_of_toDynamic ho hd, Dialogue.bind_eq, Surroundings.run_andThen, run_updateStatus, h]
  rfl

/-! ### The rest of a recording -/

/-- What follows the status write of a recording, where the delay after a failure is known. -/
def ending (b : Backoff) (failure : Option String) (delay : Duration) :
    ManagedObject × Except ReconcileError Unit → Pass (ManagedObject × Requeue)
  | (o, .error _) => finish "status_error" o b.base
  | (o, .ok ()) =>
    if failure.isSome then finish "error" o delay
    else do
      Pass.measure (.result "success")
      return (o, .done)

theorem reference_of_key (hk : ObjectKey.of o = .ok k) : ∃ reference, ObjectReference.of o = .ok reference := by
  rw [ObjectReference.of, hk]
  exact ⟨_, rfl⟩

theorem run_recordFailure (message : String) (ho : o.tracksStatus = true)
    (hreference : ObjectReference.of o = .ok reference) :
    ∃ notices, Surroundings.run store (recordFailure b o message) s =
      Surroundings.run store (writeStatus o (.failure s.clock message) >>=
        ending b (some message) (b.requeueDelay s.clock o.status?)) { s with notices := notices } := by
  obtain ⟨previous, hstatus⟩ := ManagedObject.exists_status? ho
  simp only [recordFailure, hreference, hstatus, Dialogue.bind_eq, Surroundings.run_notify, Surroundings.run_now]
  exact ⟨_, rfl⟩

theorem run_recordSuccess (ho : o.tracksStatus = true) (hreference : ObjectReference.of o = .ok reference) :
    Surroundings.run store (recordSuccess b o) s =
      Surroundings.run store (writeStatus o (.success s.clock) >>=
        ending b none (b.requeueDelay s.clock o.status?)) s := by
  simp only [recordSuccess, hreference, ho, Bool.not_true, Bool.false_eq_true, if_false, Dialogue.bind_eq,
    Surroundings.run_now]
  rfl

variable (s) (failure : Option String)

/-- A recording of an identified object that tracks its status goes through its status write. -/
theorem run_conclude (b : Backoff) (hk : ObjectKey.of o = .ok k) (ho : o.tracksStatus = true) :
    ∃ notices, Surroundings.run store (conclude b failure o) s =
      Surroundings.run store (writeStatus o (concluded s.clock failure) >>=
        ending b failure (b.requeueDelay s.clock o.status?)) { s with notices := notices } := by
  obtain ⟨reference, hreference⟩ := reference_of_key hk
  cases failure with
  | none => exact ⟨s.notices, run_recordSuccess store ho hreference⟩
  | some message => exact run_recordFailure store message ho hreference

/-! ### Both recordings -/

/-- An object without identity is given back as it is, without any effect. -/
theorem recordings_of_unidentified {e : ResourceError} (hk : ObjectKey.of o = .error e) (b : Backoff)
    (message : String) :
    recordFailure b o message = .done (o, .done) ∧ recordSuccess b o = .done (o, .done) := by
  have hreference : ObjectReference.of o = .error e := by
    rw [ObjectReference.of, hk]
    rfl
  simp only [recordFailure, recordSuccess, hreference, Dialogue.pure_eq, and_self]

theorem conclude_of_unidentified {e : ResourceError} (hk : ObjectKey.of o = .error e) (b : Backoff)
    (failure : Option String) : conclude b failure o = .done (o, .done) := by
  cases failure with
  | none => exact (recordings_of_unidentified hk b "").2
  | some message => exact (recordings_of_unidentified hk b message).1

theorem run_conclude_accepted (hk : ObjectKey.of o = .ok k) (ho : o.tracksStatus = true)
    (hd : (o.withStatus (concluded s.clock failure)).toDynamic = .ok d)
    (h : store (.updateStatus d) s.store = (.ok w, t)) :
    ∃ s', Surroundings.run store (conclude b failure o) s =
        ((Synchronize.adopt (o.withStatus (concluded s.clock failure)) w,
          if failure.isSome then .later (b.requeueDelay s.clock o.status?) else .done), s') ∧
      s'.store = t := by
  obtain ⟨notices, hrun⟩ := run_conclude store s failure b hk ho
  rw [hrun, Dialogue.bind_eq, Surroundings.run_andThen,
    run_writeStatus_accepted store (s := { s with notices := notices }) ho hd h]
  cases failure <;> exact ⟨_, rfl, rfl⟩

/-- Whatever keeps a status from being written, the pass comes back after one unit. -/
theorem run_conclude_failed {cause : ReconcileError} (hk : ObjectKey.of o = .ok k) (ho : o.tracksStatus = true)
    (h : ∀ notices, ∃ s', Surroundings.run store (writeStatus o (concluded s.clock failure))
      { s with notices := notices } = ((o', .error cause), s') ∧ s'.store = t) :
    ∃ s', Surroundings.run store (conclude b failure o) s = ((o', .later b.base), s') ∧ s'.store = t := by
  obtain ⟨notices, hrun⟩ := run_conclude store s failure b hk ho
  obtain ⟨s', hwrite, hstore⟩ := h notices
  rw [hrun, Dialogue.bind_eq, Surroundings.run_andThen, hwrite]
  exact ⟨_, rfl, hstore⟩

theorem run_conclude_rejected (hk : ObjectKey.of o = .ok k) (ho : o.tracksStatus = true)
    (hd : (o.withStatus (concluded s.clock failure)).toDynamic = .ok d)
    (h : store (.updateStatus d) s.store = (.error e, t)) :
    ∃ s', Surroundings.run store (conclude b failure o) s =
        ((o.withStatus (concluded s.clock failure), .later b.base), s') ∧ s'.store = t :=
  run_conclude_failed store s failure hk ho fun notices =>
    ⟨_, run_writeStatus_rejected store (s := { s with notices := notices }) ho hd h, rfl⟩

theorem run_conclude_unwritable {cause : ResourceError} (hk : ObjectKey.of o = .ok k) (ho : o.tracksStatus = true)
    (hd : (o.withStatus (concluded s.clock failure)).toDynamic = .error cause) :
    ∃ s', Surroundings.run store (conclude b failure o) s =
        ((o.withStatus (concluded s.clock failure), .later b.base), s') ∧ s'.store = s.store := by
  have hwrite : ∀ notices, Surroundings.run store (writeStatus o (concluded s.clock failure)) { s with notices } =
      ((o.withStatus (concluded s.clock failure), .error (.typeMismatch cause)), { s with notices }) := by
    intro notices
    rw [writeStatus_of_unwritable ho hd]
    rfl
  exact run_conclude_failed store s failure hk ho fun notices => ⟨_, hwrite notices, rfl⟩

end Conclusion

namespace Reconciler

/-- The recording of a failure with its message, or of a success. -/
def conclude (r : Reconciler) (o : ManagedObject) : Option String → Pass (ManagedObject × Requeue)
  | some message => r.recordFailure o message
  | none => r.recordSuccess o

theorem conclude_eq (r : Reconciler) (failure : Option String) (o : ManagedObject) :
    r.conclude o failure = Conclusion.conclude r.backoff failure o := by
  cases failure <;> rfl

end Reconciler

end Reconciliation
