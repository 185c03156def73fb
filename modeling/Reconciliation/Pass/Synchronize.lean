import Reconciliation.Pass.Effect
import Reconciliation.Resource.Ownership
/-!
# Synchronization

Bringing stored objects to what a controller wants, each operation safe to repeat. The owner is marked
first, where a failure is ignored, then the namespace is overridden, and only then is the object
identified.

`converge` looks the object up and updates or creates it; an update carries the version of the looked-up
object, and nothing is merged or retried. `ensurePresent` creates what is missing and `ensureAbsent`
deletes what is there. The operations give the object back with the version and the identifier that the
store gave it. A batch is the operation on each object in turn and ends with the first failure.
-/

namespace Reconciliation

namespace Synchronize

/-- Whom the objects belong to and where they go. -/
structure Placement where
  stamper : Stamper
  owner : Option ManagedObject
  nameSpace : Option String

/-- Marks the owner and overrides the namespace. -/
def prepare (p : Placement) (o : ManagedObject) : ManagedObject :=
  let m := match p.owner with
    | none => o.metadata
    | some owner => (p.stamper owner o.metadata).1
  o.withMetadata (m.inNamespace p.nameSpace)

/-- The identity of an object and the form in which it is stored. -/
def identify (o : ManagedObject) : Except ReconcileError (ObjectKey × DynamicObject) :=
  match ObjectKey.of o with
  | .error e => .error (.typeMismatch e)
  | .ok k =>
    match o.toDynamic with
    | .error e => .error (.typeMismatch e)
    | .ok d => .ok (k, d)

/-- The object with the version and the identifier of a stored one. -/
def adopt (o : ManagedObject) (stored : DynamicObject) : ManagedObject :=
  o.withMetadata (o.metadata.adopt stored.metadata)

/-- The object, after the count of how the operation on it ended. -/
def finish (operation outcome : String) (o : ManagedObject) (r : Except ReconcileError Unit) :
    Pass (ManagedObject × Except ReconcileError Unit) := do
  Pass.measure (.operation operation outcome)
  return (o, r)

/-- Updates the stored object, or creates it if there is none. -/
def converge (p : Placement) (o : ManagedObject) :
    Pass (ManagedObject × Except ReconcileError Unit) := do
  let o := prepare p o
  match identify o with
  | .error e => return (o, .error e)
  | .ok (k, desired) =>
    match ← Pass.get k with
    | .ok stored =>
      let version := stored.metadata.resourceVersion
      let o := o.withMetadata { o.metadata with resourceVersion := version }
      match ← Pass.update
          { desired with metadata := { desired.metadata with resourceVersion := version } } with
      | .ok updated => finish "create_or_update" "updated" (adopt o updated) (.ok ())
      | .error e => finish "create_or_update" "error" o (.error (.store e))
    | .error e =>
      if e.isNotFound then
        match ← Pass.create desired with
        | .ok created => finish "create_or_update" "created" (adopt o created) (.ok ())
        | .error e => finish "create_or_update" "error" o (.error (.store e))
      else finish "create_or_update" "error" o (.error (.store e))

/-- Creates the object, unless there is one already. -/
def ensurePresent (p : Placement) (o : ManagedObject) :
    Pass (ManagedObject × Except ReconcileError Unit) := do
  let o := prepare p o
  match identify o with
  | .error e => return (o, .error e)
  | .ok (_, desired) =>
    match ← Pass.create desired with
    | .ok created => finish "create_if_not_exists" "created" (adopt o created) (.ok ())
    | .error e =>
      if e.isAlreadyExists then finish "create_if_not_exists" "exists" o (.ok ())
      else finish "create_if_not_exists" "error" o (.error (.store e))

/-- Deletes the object, unless there is none. -/
def ensureAbsent (o : ManagedObject) : Pass (ManagedObject × Except ReconcileError Unit) :=
  match identify o with
  | .error e => return (o, .error e)
  | .ok (_, target) => do
    match ← Pass.delete target with
    | .ok () => finish "delete" "deleted" o (.ok ())
    | .error e =>
      if e.isNotFound then finish "delete" "absent" o (.ok ())
      else finish "delete" "error" o (.error (.store e))

/-- An operation on each object in turn, up to the first failure. The objects that it did not reach are
given back as they were. -/
def batch (operation : ManagedObject → Pass (ManagedObject × Except ReconcileError Unit)) :
    List ManagedObject → Pass (List ManagedObject × Except ReconcileError Unit)
  | [] => return ([], .ok ())
  | o :: rest => do
    match ← operation o with
    | (o, .error e) => return (o :: rest, .error e)
    | (o, .ok ()) =>
      let (rest, r) ← batch operation rest
      return (o :: rest, r)

/-- Deletes each object in turn, up to the first failure. -/
def ensureAllAbsent (os : List ManagedObject) :
    Pass (List ManagedObject × Except ReconcileError Unit) :=
  batch ensureAbsent os

end Synchronize

end Reconciliation
