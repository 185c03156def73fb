import Reconciliation.Pass.Synchronize
import Reconciliation.Proofs.Memory.Invariant
import Reconciliation.Proofs.Pass.Interleaving
import Reconciliation.Proofs.Resource.Dynamic
/-!
# The calls of converging an object

An object that is identified is looked up under the identity that the store files it under, and then it is
updated with the version that was looked up, or created (`calls_converge`). What comes of it is decided by
the answer to that second call.
-/

namespace Reconciliation

namespace Synchronize

/-- The metadata of an object after its owner was marked. -/
def stamped (p : Placement) (o : ManagedObject) : ObjectMeta :=
  match p.owner with
  | none => o.metadata
  | some owner => (p.stamper owner o.metadata).1

theorem prepare_eq (p : Placement) (o : ManagedObject) :
    prepare p o = o.withMetadata ((stamped p o).inNamespace p.nameSpace) := rfl

theorem identify_eq_ok {o : ManagedObject} {k : ObjectKey} {d : DynamicObject} :
    identify o = .ok (k, d) ↔ ObjectKey.of o = .ok k ∧ o.toDynamic = .ok d := by
  constructor
  · intro h
    unfold identify at h
    split at h
    · cases h
    · rename_i k' hk
      split at h
      · cases h
      · rename_i d' hd
        cases h
        exact ⟨hk, hd⟩
  · rintro ⟨hk, hd⟩
    simp only [identify, hk, hd]

/-- The identity under which an object is looked up is the one that the store files it under. -/
theorem storeKey_of_identify {o : ManagedObject} {k : ObjectKey} {d : DynamicObject}
    (h : identify o = .ok (k, d)) : storeKey d = .ok k := by
  obtain ⟨hk, hd⟩ := identify_eq_ok.1 h
  exact storeKey_eq_ok_iff.2 ((ManagedObject.ofDynamic_toDynamic hd).trans hk)

/-- The object with the version of a stored one, in the form in which it is handed over. -/
def carrying (d stored : DynamicObject) : DynamicObject :=
  { d with metadata := { d.metadata with resourceVersion := stored.metadata.resourceVersion } }

theorem storeKey_carrying (d stored : DynamicObject) : storeKey (carrying d stored) = storeKey d := rfl

/-- How converging ends with the answer to its write. -/
def afterWrite (o : ManagedObject) :
    Except StoreError DynamicObject → ManagedObject × Except ReconcileError Unit
  | .ok written => (adopt o written, .ok ())
  | .error e => (o, .error (.store e))

/-- What is left of converging with the answer to the lookup. -/
def afterLookup (o : ManagedObject) (d : DynamicObject) :
    Except StoreError DynamicObject →
      Dialogue StoreCall.Answer (ManagedObject × Except ReconcileError Unit)
  | .ok stored =>
    .ask (.update (carrying d stored)) fun answer => .done (afterWrite
      (o.withMetadata { o.metadata with resourceVersion := stored.metadata.resourceVersion }) answer)
  | .error e =>
    if e.isNotFound then .ask (.create d) fun answer => .done (afterWrite o answer)
    else .done (o, .error (.store e))

theorem calls_converge {p : Placement} {o : ManagedObject} {k : ObjectKey} {d : DynamicObject}
    (h : identify (prepare p o) = .ok (k, d)) (clock : Instant) :
    (converge p o).calls clock = .ask (.get k) (afterLookup (prepare p o) d) := by
  simp only [converge, h]
  refine congrArg (Dialogue.ask (StoreCall.get k)) ?_
  funext answer
  cases answer with
  | ok stored =>
    refine congrArg (Dialogue.ask (StoreCall.update (carrying d stored))) ?_
    funext answer
    cases answer <;> rfl
  | error e =>
    cases e with
    | notFound kind name =>
      refine congrArg (Dialogue.ask (StoreCall.create d)) ?_
      funext answer
      cases answer <;> rfl
    | _ => rfl

/-! ### A configuration map -/

def settings : ManagedObject :=
  .builtin (.configMap { name := some "settings", nameSpace := some "quay" } none none)

def settingsKey : ObjectKey := ⟨⟨"", "v1", "ConfigMap"⟩, some "quay", "settings"⟩

/-- The form in which `settings` is handed to a store. -/
def storedSettings : DynamicObject :=
  ⟨some ⟨"v1", "ConfigMap"⟩, { name := some "settings", nameSpace := some "quay" }, .object []⟩

/-- No owner, and no other namespace. -/
def unplaced : Placement := ⟨.controllerReference, none, none⟩

theorem identify_settings : identify (prepare unplaced settings) = .ok (settingsKey, storedSettings) := rfl

end Synchronize

end Reconciliation
