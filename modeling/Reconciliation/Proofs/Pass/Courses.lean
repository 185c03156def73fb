import Reconciliation.Proofs.Pass.Log
import Reconciliation.Proofs.Pass.Presence
/-!
# All that an operation on one object does

The log and the result of each operation of the synchronizer, however it is answered: a refusal without any effect, or
the calls of the operation and then one count of how it ended. What else holds of an operation in any surroundings is
read off these.
-/

namespace Reconciliation

namespace Synchronize

open Dialogue (Yields)
open Pass

/-- The outcome that is counted for a write. -/
def writeOutcome (done : String) : Except StoreError DynamicObject → String
  | .ok _ => done
  | .error _ => "error"

def creationOutcome : Except StoreError DynamicObject → String
  | .ok _ => "created"
  | .error e => if e.isAlreadyExists then "exists" else "error"

def deletionOutcome : Except StoreError Unit → String
  | .ok () => "deleted"
  | .error e => if e.isNotFound then "absent" else "error"

/-- The log of converging an object, and what comes of it. -/
inductive ConvergeCourse (p : Placement) (o : ManagedObject) :
    List ((e : Effect) × e.Answer) → ManagedObject × Except ReconcileError Unit → Prop
  | refused {cause : ResourceError} (h : identify (prepare p o) = .error (.typeMismatch cause)) :
    ConvergeCourse p o [] (prepare p o, .error (.typeMismatch cause))
  | found {k : ObjectKey} {d : DynamicObject} (h : identify (prepare p o) = .ok (k, d)) (stored : DynamicObject)
      (answer : Except StoreError DynamicObject) :
    ConvergeCourse p o
      [⟨.store (.get k), .ok stored⟩, ⟨.store (.update (carrying d stored)), answer⟩,
        ⟨.measure (.operation "create_or_update" (writeOutcome "updated" answer)), ()⟩]
      (afterWrite ((prepare p o).withMetadata { (prepare p o).metadata with
        resourceVersion := stored.metadata.resourceVersion }) answer)
  | missing {k : ObjectKey} {d : DynamicObject} (h : identify (prepare p o) = .ok (k, d)) {e : StoreError}
      (he : e.isNotFound = true) (answer : Except StoreError DynamicObject) :
    ConvergeCourse p o
      [⟨.store (.get k), .error e⟩, ⟨.store (.create d), answer⟩,
        ⟨.measure (.operation "create_or_update" (writeOutcome "created" answer)), ()⟩]
      (afterWrite (prepare p o) answer)
  | unread {k : ObjectKey} {d : DynamicObject} (h : identify (prepare p o) = .ok (k, d)) {e : StoreError}
      (he : e.isNotFound = false) :
    ConvergeCourse p o
      [⟨.store (.get k), .error e⟩, ⟨.measure (.operation "create_or_update" "error"), ()⟩]
      (prepare p o, .error (.store e))

theorem yields_converge (p : Placement) (o : ManagedObject) : Yields (ConvergeCourse p o) (converge p o) := by
  cases hid : identify (prepare p o) with
  | error e =>
    obtain ⟨⟨cause, rfl⟩, -⟩ := identify_error hid
    simp only [converge, hid]
    exact yields_done (.refused hid)
  | ok found =>
    obtain ⟨k, d⟩ := found
    simp only [converge, hid, Dialogue.bind_eq]
    refine yields_call fun answer => ?_
    cases answer with
    | ok stored =>
      refine yields_call fun answer => ?_
      cases answer with
      | ok updated => exact yields_measure (yields_done (.found hid stored (.ok updated)))
      | error e => exact yields_measure (yields_done (.found hid stored (.error e)))
    | error e =>
      dsimp only
      split_ifs with hmissing
      · refine yields_call fun answer => ?_
        cases answer with
        | ok created => exact yields_measure (yields_done (.missing hid hmissing (.ok created)))
        | error e => exact yields_measure (yields_done (.missing hid hmissing (.error e)))
      · exact yields_measure (yields_done (.unread hid (Bool.eq_false_iff.2 hmissing)))

/-- The log of creating an object, and what comes of it. -/
inductive CreationCourse (p : Placement) (o : ManagedObject) :
    List ((e : Effect) × e.Answer) → ManagedObject × Except ReconcileError Unit → Prop
  | refused {cause : ResourceError} (h : identify (prepare p o) = .error (.typeMismatch cause)) :
    CreationCourse p o [] (prepare p o, .error (.typeMismatch cause))
  | answered {k : ObjectKey} {d : DynamicObject} (h : identify (prepare p o) = .ok (k, d))
      (answer : Except StoreError DynamicObject) :
    CreationCourse p o
      [⟨.store (.create d), answer⟩, ⟨.measure (.operation "create_if_not_exists" (creationOutcome answer)), ()⟩]
      (afterCreation (prepare p o) answer)

theorem yields_ensurePresent (p : Placement) (o : ManagedObject) :
    Yields (CreationCourse p o) (ensurePresent p o) := by
  cases hid : identify (prepare p o) with
  | error e =>
    obtain ⟨⟨cause, rfl⟩, -⟩ := identify_error hid
    simp only [ensurePresent, hid]
    exact yields_done (.refused hid)
  | ok found =>
    obtain ⟨k, d⟩ := found
    simp only [ensurePresent, hid, Dialogue.bind_eq]
    refine yields_call fun answer => ?_
    have hcourse := CreationCourse.answered hid answer
    cases answer with
    | ok created => exact yields_measure (yields_done hcourse)
    | error e => cases e <;> exact yields_measure (yields_done hcourse)

/-- The log of deleting an object, and what comes of it. -/
inductive DeletionCourse (o : ManagedObject) :
    List ((e : Effect) × e.Answer) → ManagedObject × Except ReconcileError Unit → Prop
  | refused {cause : ResourceError} (h : identify o = .error (.typeMismatch cause)) :
    DeletionCourse o [] (o, .error (.typeMismatch cause))
  | answered {k : ObjectKey} {d : DynamicObject} (h : identify o = .ok (k, d)) (answer : Except StoreError Unit) :
    DeletionCourse o
      [⟨.store (.delete d), answer⟩, ⟨.measure (.operation "delete" (deletionOutcome answer)), ()⟩]
      (o, afterDeletion answer)

theorem yields_ensureAbsent (o : ManagedObject) : Yields (DeletionCourse o) (ensureAbsent o) := by
  cases hid : identify o with
  | error e =>
    obtain ⟨⟨cause, rfl⟩, -⟩ := identify_error hid
    simp only [ensureAbsent, hid]
    exact yields_done (.refused hid)
  | ok found =>
    obtain ⟨k, d⟩ := found
    simp only [ensureAbsent, hid, Dialogue.bind_eq]
    refine yields_call fun answer => ?_
    have hcourse := DeletionCourse.answered hid answer
    cases answer with
    | ok => exact yields_measure (yields_done hcourse)
    | error e => cases e <;> exact yields_measure (yields_done hcourse)

end Synchronize

end Reconciliation
