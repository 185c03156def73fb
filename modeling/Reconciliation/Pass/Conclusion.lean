import Reconciliation.Backoff
import Reconciliation.Pass.Synchronize
/-!
# The end of a pass

A pass ends with `recordFailure` or `recordSuccess`. Both write the outcome to the status of the object,
if it tracks one, and say when to come back; neither fails. A failure becomes an event, the reason in the
status and a delay that grows with the time since the last transition. If the status cannot be written
the pass comes back after one unit of the backoff.
-/

namespace Reconciliation

/-- What a scheduler is told: whether to come back, and after what time at least. -/
structure Requeue where
  requeue : Bool
  after : Duration
  deriving DecidableEq, Repr

/-- What a scheduler does: wait for a change, or come back after a delay. -/
inductive Action where
  | awaitChange
  | requeue (after : Duration)
  deriving DecidableEq, Repr

namespace Requeue

def done : Requeue := ⟨false, .zero⟩

def later (delay : Duration) : Requeue := ⟨true, delay⟩

/-- The action of a scheduler: a delay that is not zero counts also without the flag. -/
def action (r : Requeue) : Action :=
  if Duration.zero < r.after then .requeue r.after
  else if r.requeue then .requeue .zero
  else .awaitChange

end Requeue

namespace Conclusion

def failureReason : String := "ProcessingError"

def failureAction : String := "Reconcile"

/-- Writes the status of an object to the store. The object has the status also when that fails. -/
def writeStatus (o : ManagedObject) (s : Status) : Pass (ManagedObject × Except ReconcileError Unit) :=
  if !o.tracksStatus then return (o, .error (.typeMismatch .untracked))
  else
    let o := o.withStatus s
    match o.toDynamic with
    | .error e => return (o, .error (.typeMismatch e))
    | .ok d => do
      match ← Pass.updateStatus d with
      | .ok stored => return (Synchronize.adopt o stored, .ok ())
      | .error e =>
        Pass.measure .statusWriteFailure
        return (o, .error (.statusPersist e))

/-- Counts how a pass ended and comes back after a delay. -/
def finish (outcome : String) (o : ManagedObject) (delay : Duration) :
    Pass (ManagedObject × Requeue) := do
  Pass.measure (.result outcome)
  Pass.measure (.delay delay.toBinary64)
  return (o, .later delay)

def recordFailure (b : Backoff) (o : ManagedObject) (message : String) :
    Pass (ManagedObject × Requeue) :=
  match ObjectReference.of o with
  | .error _ => return (o, .done)
  | .ok reference => do
    Pass.notify ⟨reference, .warning, failureReason, failureAction, message⟩
    let now ← Pass.now
    match o.status? with
    | none => finish "error" o (b.requeueDelay now none)
    | some previous =>
      match ← writeStatus o (.failure now message) with
      | (o, .error _) => finish "status_error" o b.base
      | (o, .ok ()) => finish "error" o (b.requeueDelay now (some previous))

def recordSuccess (b : Backoff) (o : ManagedObject) : Pass (ManagedObject × Requeue) :=
  match ObjectReference.of o with
  | .error _ => return (o, .done)
  | .ok _ =>
    if !o.tracksStatus then do
      Pass.measure (.result "success")
      return (o, .done)
    else do
      let now ← Pass.now
      match ← writeStatus o (.success now) with
      | (o, .error _) => finish "status_error" o b.base
      | (o, .ok ()) =>
        Pass.measure (.result "success")
        return (o, .done)

end Conclusion

end Reconciliation
