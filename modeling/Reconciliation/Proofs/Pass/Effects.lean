import Reconciliation.Proofs.Pass.Conclusion
import Reconciliation.Proofs.Pass.Log
import Reconciliation.Store.Memory
/-!
# All that a recording does

A recording of an identified object is its event, if it records a failure, one status write, if the object tracks its
status and can be written with it, and measurements, in this order. Whether the status gets into the store decides with
what delay the scheduler is told to come back (`FailureCourse`, `SuccessCourse`), and with what measurements
(`ExactFailure`, `ExactSuccess`). It does not if the store refuses the write, nor if the object cannot be written, and
then the store is not asked at all. An object without identity is left alone.
-/

namespace Reconciliation

namespace Requeue

@[simp] theorem action_done : Requeue.done.action = .awaitChange := rfl

/-- A scheduler comes back after the delay that it is told, be it zero. -/
@[simp] theorem action_later (d : Duration) : (Requeue.later d).action = .requeue d := by
  rw [action]
  split_ifs with hpositive hflag
  · rfl
  · have hzero : d = .zero := Duration.ext (Nat.eq_zero_of_not_pos hpositive)
    rw [hzero]
  · exact absurd rfl hflag

end Requeue

/-- The reference to an object by its identity. -/
def ObjectReference.to (k : ObjectKey) (o : ManagedObject) : ObjectReference where
  apiVersion := k.kind.apiVersion
  kind := k.kind.kind
  name := k.name
  nameSpace := k.nameSpace
  uid := o.metadata.uid
  resourceVersion := o.metadata.resourceVersion

theorem ObjectReference.of_eq_ok {o : ManagedObject} {reference : ObjectReference} :
    ObjectReference.of o = .ok reference ↔ ∃ k, ObjectKey.of o = .ok k ∧ reference = .to k o := by
  rw [ObjectReference.of]
  cases ObjectKey.of o with
  | error e => simp [Except.map]
  | ok k => simp [Except.map, ObjectReference.to, eq_comm]

namespace Conclusion

open Dialogue (Yields run log)
open Pass

variable {σ : Type} {b : Backoff} {o : ManagedObject} {k : ObjectKey} {message : String}
  {status : Status}

/-- How the status write of a recording goes: there is no status to write, the object that has it cannot be written,
or the store answers. -/
inductive Writing where
  | untracked
  | unwritable
  | answered (answer : Except StoreError DynamicObject)

/-- The status was to be recorded and is not. -/
def Writing.failed : Writing → Bool
  | .untracked => false
  | .unwritable => true
  | .answered answer => !answer.isOk

/-- The status write of a recording: one call with the written form of the object that has the status, or no call for an
object that does not track it or that has no written form. -/
inductive StatusWrite (o : ManagedObject) (k : ObjectKey) (status : Status) :
    List ((e : Effect) × e.Answer) → Writing → Prop
  | untracked (tracks : o.tracksStatus = false) : StatusWrite o k status [] .untracked
  | unwritable (tracks : o.tracksStatus = true) (cause : ResourceError)
      (form : (o.withStatus status).toDynamic = .error cause) : StatusWrite o k status [] .unwritable
  | answered (tracks : o.tracksStatus = true) (d : DynamicObject) (answer : Except StoreError DynamicObject)
      (form : (o.withStatus status).toDynamic = .ok d) (key : storeKey d = .ok k)
      (carries : d.status? = some status.field) :
      StatusWrite o k status [⟨.store (.updateStatus d), answer⟩] (.answered answer)

/-- The object after its status write. It has the status also when that is not recorded. -/
def afterWriting (o : ManagedObject) (status : Status) : Writing → ManagedObject
  | .untracked => o
  | .answered (.ok stored) => Synchronize.adopt (o.withStatus status) stored
  | _ => o.withStatus status

/-- The delay after a failure: one unit if its status is not recorded, and otherwise what follows from the status
before. -/
def delayAfter (b : Backoff) (now : Instant) (previous : Option Status) (w : Writing) : Duration :=
  if w.failed then b.base else b.requeueDelay now previous

theorem delayAfter_of_failed {now : Instant} {previous : Option Status} {w : Writing} (h : w.failed = true) :
    delayAfter b now previous w = b.base := by
  rw [delayAfter, h]
  rfl

theorem delayAfter_of_not_failed {now : Instant} {previous : Option Status} {w : Writing} (h : w.failed = false) :
    delayAfter b now previous w = b.requeueDelay now previous := by
  rw [delayAfter, h]
  rfl

def requeueAfterSuccess (b : Backoff) (w : Writing) : Requeue :=
  if w.failed then .later b.base else .done

def Measurements (log : List ((e : Effect) × e.Answer)) : Prop :=
  ∀ x ∈ log, ∃ m, x.1 = .measure m

/-- The log of recording a failure of an identified object, and what comes of it. -/
def FailureCourse (b : Backoff) (o : ManagedObject) (k : ObjectKey) (message : String)
    (log : List ((e : Effect) × e.Answer)) (result : ManagedObject × Requeue) : Prop :=
  ∃ now written writing counts, StatusWrite o k (.failure now message) written writing ∧ Measurements counts ∧
    log = ⟨.notify ⟨.to k o, .warning, failureReason, failureAction, message⟩, ()⟩ :: ⟨.now, now⟩ ::
      (written ++ counts) ∧
    result = (afterWriting o (.failure now message) writing, .later (delayAfter b now o.status? writing))

/-- The log of recording a success of an identified object, and what comes of it. -/
def SuccessCourse (b : Backoff) (o : ManagedObject) (k : ObjectKey) (log : List ((e : Effect) × e.Answer))
    (result : ManagedObject × Requeue) : Prop :=
  ∃ now written writing counts, StatusWrite o k (.success now) written writing ∧ Measurements counts ∧
    log = (if o.tracksStatus then [⟨.now, now⟩] else []) ++ (written ++ counts) ∧
    result = (afterWriting o (.success now) writing, requeueAfterSuccess b writing)

theorem statusWrite_answered (hk : ObjectKey.of o = .ok k) (ho : o.tracksStatus = true) {d : DynamicObject}
    (hd : (o.withStatus status).toDynamic = .ok d) (answer : Except StoreError DynamicObject) :
    StatusWrite o k status [⟨.store (.updateStatus d), answer⟩] (.answered answer) :=
  .answered ho d answer hd ((ManagedObject.storeKey_toDynamic_withStatus hd).2 hk)
    (ManagedObject.status?_toDynamic_withStatus ho hd)

/-! ### The measurements, one by one -/

/-- What is measured of a status write: its refusal by the store. -/
def writeCounts : Writing → List Measurement
  | .answered (.error _) => [.statusWriteFailure]
  | _ => []

/-- What is measured after a failure with its status write, in this order. -/
def failureCounts (delay : Duration) (w : Writing) : List Measurement :=
  writeCounts w ++ [.result (if w.failed then "status_error" else "error"), .delay delay.toBinary64]

def successCounts (b : Backoff) (w : Writing) : List Measurement :=
  writeCounts w ++
    if w.failed then [.result "status_error", .delay b.base.toBinary64] else [.result "success"]

/-- The measurements as entries of a log. -/
def entries (ms : List Measurement) : List ((e : Effect) × e.Answer) :=
  ms.map fun m => ⟨.measure m, ()⟩

theorem measurements_entries (ms : List Measurement) : Measurements (entries ms) := by
  intro x hx
  obtain ⟨m, -, rfl⟩ := List.mem_map.1 hx
  exact ⟨m, rfl⟩

/-- The log of recording a failure of an identified object with all its measurements, and what comes of it. -/
def ExactFailure (b : Backoff) (o : ManagedObject) (k : ObjectKey) (message : String)
    (log : List ((e : Effect) × e.Answer)) (result : ManagedObject × Requeue) : Prop :=
  ∃ now written writing, StatusWrite o k (.failure now message) written writing ∧
    log = ⟨.notify ⟨.to k o, .warning, failureReason, failureAction, message⟩, ()⟩ :: ⟨.now, now⟩ ::
      (written ++ entries (failureCounts (delayAfter b now o.status? writing) writing)) ∧
    result = (afterWriting o (.failure now message) writing, .later (delayAfter b now o.status? writing))

def ExactSuccess (b : Backoff) (o : ManagedObject) (k : ObjectKey) (log : List ((e : Effect) × e.Answer))
    (result : ManagedObject × Requeue) : Prop :=
  ∃ now written writing, StatusWrite o k (.success now) written writing ∧
    log = (if o.tracksStatus then [⟨.now, now⟩] else []) ++ (written ++ entries (successCounts b writing)) ∧
    result = (afterWriting o (.success now) writing, requeueAfterSuccess b writing)

/-- The log of the status write of an identified object that tracks its status, with its measurements, and what comes
of it. -/
structure WriteCourse (o : ManagedObject) (k : ObjectKey) (status : Status) (writing : Writing)
    (log : List ((e : Effect) × e.Answer)) (result : ManagedObject × Except ReconcileError Unit) : Prop where
  written : ∃ written, StatusWrite o k status written writing ∧ log = written ++ entries (writeCounts writing)
  object : result.1 = afterWriting o status writing
  failed : writing.failed = !result.2.isOk

theorem yields_writeStatus (hk : ObjectKey.of o = .ok k) (ho : o.tracksStatus = true) (status : Status) :
    Yields (fun log result => ∃ writing, WriteCourse o k status writing log result) (writeStatus o status) := by
  cases hd : (o.withStatus status).toDynamic with
  | error cause =>
    rw [writeStatus_of_unwritable ho hd]
    exact yields_done ⟨.unwritable, ⟨[], .unwritable ho cause hd, rfl⟩, rfl, rfl⟩
  | ok d =>
    rw [writeStatus_of_toDynamic ho hd]
    refine yields_call fun answer => ?_
    have hwritten := statusWrite_answered hk ho hd answer
    cases answer with
    | error e => exact yields_measure (yields_done ⟨_, ⟨_, hwritten, rfl⟩, rfl, rfl⟩)
    | ok stored => exact yields_done ⟨_, ⟨_, hwritten, rfl⟩, rfl, rfl⟩

theorem yields_exactFailure (hk : ObjectKey.of o = .ok k) (b : Backoff) (message : String) :
    Yields (ExactFailure b o k message) (recordFailure b o message) := by
  have hreference := ObjectReference.of_eq_ok.2 ⟨k, hk, rfl⟩
  simp only [recordFailure, hreference, Dialogue.bind_eq]
  refine yields_notify (yields_now fun (now : Instant) => ?_)
  cases hstatus : o.status? with
  | none =>
    have ho : o.tracksStatus = false := ManagedObject.tracksStatus_of_status?_none hstatus
    exact yields_measure (yields_measure (yields_done ⟨now, [], .untracked, .untracked ho, by rw [hstatus]; rfl,
      by rw [hstatus]; rfl⟩))
  | some previous =>
    refine Dialogue.yields_andThen
      ((yields_writeStatus hk (ManagedObject.tracksStatus_of_status? hstatus) _).mono ?_)
    rintro log ⟨o', r⟩ ⟨writing, ⟨written, hwritten, rfl⟩, rfl, hfailed⟩
    cases r with
    | error e =>
      have hbase : delayAfter b now o.status? writing = b.base := delayAfter_of_failed hfailed
      refine yields_measure (yields_measure (yields_done ⟨now, written, writing, hwritten, ?_, ?_⟩))
      · simp [hbase, failureCounts, hfailed, entries, Except.isOk, Except.toBool]
      · rw [hbase]
    | ok =>
      have hdelay : delayAfter b now o.status? writing = b.requeueDelay now (some previous) := by
        rw [delayAfter_of_not_failed hfailed, hstatus]
      refine yields_measure (yields_measure (yields_done ⟨now, written, writing, hwritten, ?_, ?_⟩))
      · simp [hdelay, failureCounts, hfailed, entries, Except.isOk, Except.toBool]
      · rw [hdelay]

theorem yields_exactSuccess (hk : ObjectKey.of o = .ok k) (b : Backoff) :
    Yields (ExactSuccess b o k) (recordSuccess b o) := by
  have hreference := ObjectReference.of_eq_ok.2 ⟨k, hk, rfl⟩
  simp only [recordSuccess, hreference, Dialogue.bind_eq]
  cases ho : o.tracksStatus with
  | false => exact yields_measure (yields_done ⟨default, [], .untracked, .untracked ho, by rw [ho]; rfl, rfl⟩)
  | true =>
    refine yields_now fun (now : Instant) => Dialogue.yields_andThen ((yields_writeStatus hk ho _).mono ?_)
    rintro log ⟨o', r⟩ ⟨writing, ⟨written, hwritten, rfl⟩, rfl, hfailed⟩
    cases r with
    | error e =>
      refine yields_measure (yields_measure (yields_done ⟨now, written, writing, hwritten, ?_, ?_⟩))
      · simp [ho, successCounts, hfailed, entries, Except.isOk, Except.toBool]
      · rw [requeueAfterSuccess, hfailed]
        rfl
    | ok =>
      refine yields_measure (yields_done ⟨now, written, writing, hwritten, ?_, ?_⟩)
      · simp [ho, successCounts, hfailed, entries, Except.isOk, Except.toBool]
      · rw [requeueAfterSuccess, hfailed]
        rfl

theorem yields_recordFailure (hk : ObjectKey.of o = .ok k) (b : Backoff) (message : String) :
    Yields (FailureCourse b o k message) (recordFailure b o message) := by
  refine (yields_exactFailure hk b message).mono ?_
  rintro log result ⟨now, written, writing, hwritten, hlog, hresult⟩
  exact ⟨now, written, writing, _, hwritten, measurements_entries _, hlog, hresult⟩

theorem yields_recordSuccess (hk : ObjectKey.of o = .ok k) (b : Backoff) :
    Yields (SuccessCourse b o k) (recordSuccess b o) := by
  refine (yields_exactSuccess hk b).mono ?_
  rintro log result ⟨now, written, writing, hwritten, hlog, hresult⟩
  exact ⟨now, written, writing, _, hwritten, measurements_entries _, hlog, hresult⟩

end Conclusion

namespace Reconciler

open Dialogue (run log)

variable {σ : Type}

/-- A recording of an object that can be referred to has the effects and the result of its course, whatever answers
it. An object that cannot be referred to is left alone, and is not looked at again before it changes. -/
theorem recordings_courses (respond : Dialogue.Responder Effect.Answer σ) (r : Reconciler) (o : ManagedObject)
    (message : String) (s : σ) :
    (∀ e, ObjectReference.of o = .error e →
      (run respond (r.recordFailure o message) s = ((o, .done), s) ∧ log respond (r.recordFailure o message) s = []) ∧
      (run respond (r.recordSuccess o) s = ((o, .done), s) ∧ log respond (r.recordSuccess o) s = [])) ∧
    (∀ reference, ObjectReference.of o = .ok reference → ∃ k, ObjectKey.of o = .ok k ∧ reference = .to k o ∧
      Conclusion.FailureCourse r.backoff o k message (log respond (r.recordFailure o message) s)
        (run respond (r.recordFailure o message) s).1 ∧
      Conclusion.SuccessCourse r.backoff o k (log respond (r.recordSuccess o) s)
        (run respond (r.recordSuccess o) s).1) ∧
    Requeue.done = ⟨false, .zero⟩ ∧ Requeue.done.action = .awaitChange ∧
    ∀ d, Requeue.later d = ⟨true, d⟩ ∧ (Requeue.later d).action = .requeue d := by
  refine ⟨fun e herror => ?_, fun reference hreference => ?_, rfl, Requeue.action_done,
    fun d => ⟨rfl, Requeue.action_later d⟩⟩
  · rw [recordFailure, recordSuccess]
    cases hk : ObjectKey.of o with
    | error e' =>
      obtain ⟨hfailure, hsuccess⟩ := Conclusion.recordings_of_unidentified hk r.backoff message
      rw [hfailure, hsuccess]
      exact ⟨⟨rfl, rfl⟩, rfl, rfl⟩
    | ok k =>
      have hreference := ObjectReference.of_eq_ok.2 ⟨k, hk, rfl⟩
      exact absurd (herror.symm.trans hreference) (by simp)
  · obtain ⟨k, hk, rfl⟩ := ObjectReference.of_eq_ok.1 hreference
    have hfailure := (Conclusion.yields_recordFailure hk r.backoff message).run respond s
    have hsuccess := (Conclusion.yields_recordSuccess hk r.backoff).run respond s
    exact ⟨k, hk, rfl, hfailure, hsuccess⟩

/-- A custom object with a name, and with a table in it whose keys are no texts. -/
def keyedByNumbers : TrackedObject where
  types := Registry.types
  metadata := { name := some "registry", nameSpace := some "quay" }
  contents := .error "key must be a string"

/-- The failure of an object that has no written form is told as an event, and the store is not called for it. -/
theorem recordFailure_unwritable :
    let o := ManagedObject.tracked keyedByNumbers
    let pass := (Reconciler.ofConfiguration .default).recordFailure o "disk full"
    let s : Surroundings Memory := ⟨{}, default, [], []⟩
    o.tracksStatus = true ∧ (∃ reference, ObjectReference.of o = .ok reference) ∧
      (¬ ∃ x ∈ log (Surroundings.respond Memory.respond) pass s, ∃ c, x.1 = .store c) ∧
      (Surroundings.run Memory.respond pass s).1.2 = .later (.ofSeconds 1) := by
  intro o pass s
  have hlog : log (Surroundings.respond Memory.respond) pass s =
      [⟨.notify ⟨.to ⟨⟨"quay.redhat.com", "v1", "QuayRegistry"⟩, some "quay", "registry"⟩ o, .warning,
          Conclusion.failureReason, Conclusion.failureAction, "disk full"⟩, ()⟩,
        ⟨.now, Instant.epoch⟩, ⟨.measure (.result "status_error"), ()⟩,
        ⟨.measure (.delay (Duration.ofSeconds 1).toBinary64), ()⟩] := rfl
  refine ⟨rfl, ⟨_, rfl⟩, ?_, rfl⟩
  rw [hlog]
  simp

end Reconciler

end Reconciliation
