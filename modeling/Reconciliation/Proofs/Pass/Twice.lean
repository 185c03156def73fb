import Reconciliation.Proofs.Pass.Stored
import Reconciliation.Proofs.Resource.Ownership
/-!
# Converging an object twice

The object that the caller gets back has another namespace, another version and another identifier than the one
that was handed over, and it is what a second call starts from. The second call stores the same object again but
for the version, with one exception: an owner that could not be marked, because the object was not in its
namespace yet, can be marked now (`converge_twice`).
-/

namespace Reconciliation

namespace Synchronize

open Ownership (MarkedLate)

/-- An owner that is to be marked as controller, and where the object goes. -/
def controlled (owner : Option ManagedObject) (target : Option String) : Placement :=
  ⟨.controllerReference, owner, target⟩

/-- The owner references after the owner was marked, if there is one. -/
def markedFor (owner : Option ManagedObject) (m : ObjectMeta) : Option (List OwnerReference) :=
  match owner with
  | none => m.ownerReferences
  | some w => Ownership.marked w m

variable {owner : Option ManagedObject} {target : Option String} {o : ManagedObject} {k : ObjectKey}
  {d : DynamicObject}

theorem prepare_controlled (owner : Option ManagedObject) (target : Option String) (o : ManagedObject) :
    prepare (controlled owner target) o = o.withMetadata { o.metadata.inNamespace target with
      ownerReferences := markedFor owner o.metadata } := by
  have hstamped : stamped (controlled owner target) o =
      { o.metadata with ownerReferences := markedFor owner o.metadata } := by
    cases owner with
    | none => rfl
    | some w => exact Ownership.controllerReference_eq w o.metadata
  rw [prepare_eq, hstamped, ObjectMeta.inNamespace_with_ownerReferences]
  rfl

/-- A second call starts from the first object with other owner references, which stays where it was moved. -/
theorem prepare_again (owner : Option ManagedObject) (target : Option String) (o : ManagedObject)
    (version uid : Option String) :
    let q := prepare (controlled owner target) o
    let m := { q.metadata with resourceVersion := version, uid := uid }
    prepare (controlled owner target) (q.withMetadata m) =
      q.withMetadata { m with ownerReferences := markedFor owner m } := by
  intro q m
  have hm : m.nameSpace = (o.metadata.inNamespace target).nameSpace := by
    simp only [m, q, prepare_controlled, ManagedObject.metadata_withMetadata]
  rw [prepare_controlled, ManagedObject.metadata_withMetadata, ManagedObject.withMetadata_withMetadata,
    ObjectMeta.inNamespace_again hm]

/-- Neither the identity nor the payload hangs on what a first call changes. -/
theorem identify_again {q : ManagedObject} (h : identify q = .ok (k, d))
    (references : Option (List OwnerReference)) (version uid : Option String) :
    let m := { q.metadata with ownerReferences := references, resourceVersion := version, uid := uid }
    identify (q.withMetadata m) = .ok (k, { d with metadata := m }) := by
  intro m
  obtain ⟨hk, hd⟩ := identify_eq_ok.1 h
  refine identify_eq_ok.2 ⟨?_, ?_⟩
  · rw [← hk, ObjectKey.of, ObjectKey.of, ManagedObject.types_withMetadata, ManagedObject.metadata_withMetadata]
    rfl
  · exact ManagedObject.toDynamic_withMetadata hd m

/-- An object that replaces the one that was stored before is stored with its own owner references and the next
version, and is the same otherwise. -/
theorem converged_again {fs : Table Json} (hfs : d.data = .object fs) (old : Option DynamicObject)
    (references : Option (List OwnerReference)) (first second : String) (version uid : Option String) :
    let w := Memory.converged old d first
    Memory.converged (some w) { d with metadata := { d.metadata with
      ownerReferences := references, resourceVersion := version, uid := uid } } second =
      { w with metadata := { w.metadata with
        ownerReferences := references, resourceVersion := some second } } := by
  intro w
  have hstatus : w.status? = old.bind DynamicObject.status? := DynamicObject.status?_withStatus hfs _
  simp only [Memory.converged, Option.bind_some, hstatus, DynamicObject.withStatus_with_metadata]
  rfl

theorem markedFor_again {m m' : ObjectMeta} (nameSpace : m'.nameSpace = (m.inNamespace target).nameSpace)
    (references : m'.ownerReferences = markedFor owner m) :
    markedFor owner m' = m'.ownerReferences ↔ ¬ ∃ v r, owner = some v ∧ MarkedLate v target m r := by
  cases owner with
  | none => exact iff_of_true rfl (by simp)
  | some v =>
    rw [references, markedFor, markedFor, Ownership.marked_again nameSpace references]
    simp

/-- Both calls succeed, and the second stores the same object again but for the version and possibly the owner
references. These change exactly if the first call moves the object into the namespace of an owner that it could
not mark. -/
theorem converge_twice (s : Surroundings Memory) (hreachable : s.store.Reachable)
    (hk : ObjectKey.of (prepare (controlled owner target) o) = .ok k)
    (hd : (prepare (controlled owner target) o).toDynamic = .ok d) :
    let once := Surroundings.run Memory.respond (converge (controlled owner target) o) s
    let twice := Surroundings.run Memory.respond (converge (controlled owner target) once.1.1) once.2
    once.1.2 = .ok () ∧ twice.1.2 = .ok () ∧
    ∃ w w', once.2.store.stored k = some w ∧ twice.2.store.stored k = some w' ∧
      w' = { w with metadata := { w.metadata with
        ownerReferences := w'.metadata.ownerReferences
        resourceVersion := w'.metadata.resourceVersion } } ∧
      (w' = carrying w w' ↔ ¬ ∃ v r, owner = some v ∧ MarkedLate v target o.metadata r) := by
  intro once twice
  have hid := identify_eq_ok.2 ⟨hk, hd⟩
  obtain ⟨-, hmetadata, fs, hfs⟩ := ManagedObject.toDynamic_ok hd
  obtain ⟨hfirst, hobjects, -⟩ := run_converge hid s
  rw [adopt_converged hmetadata (hreachable.valid.convergedUid_ne_none k d)] at hfirst
  generalize hw : Memory.converged (s.store.stored k) d s.store.nextVersion = w at hfirst hobjects
  have hstored : once.2.store.stored k = some w := by
    rw [Memory.stored, hobjects, Table.find?_insert_self]
  have hw_metadata : w.metadata = { (prepare (controlled owner target) o).metadata with
      resourceVersion := some s.store.nextVersion, uid := w.metadata.uid } := by
    rw [← hw, Memory.converged_metadata, hmetadata]
  -- What the second call starts from, in the form in which it is handed over.
  have hagain : identify (prepare (controlled owner target) once.1.1) = .ok (k, { d with metadata :=
      { d.metadata with
        ownerReferences := markedFor owner w.metadata
        resourceVersion := some s.store.nextVersion
        uid := w.metadata.uid } }) := by
    rw [hfirst, hw_metadata, prepare_again, hmetadata]
    exact identify_again hid _ _ _
  obtain ⟨hsecond, hobjects', -⟩ := run_converge hagain once.2
  rw [hstored, ← hw, converged_again hfs, hw] at hobjects'
  have hstored' := Table.find?_insert_self once.2.store.objects k.path { w with metadata := { w.metadata with
    ownerReferences := markedFor owner w.metadata, resourceVersion := some once.2.store.nextVersion } }
  rw [← hobjects'] at hstored'
  have hnamespace : w.metadata.nameSpace = (o.metadata.inNamespace target).nameSpace := by
    rw [hw_metadata, prepare_controlled, ManagedObject.metadata_withMetadata]
  have hreferences : w.metadata.ownerReferences = markedFor owner o.metadata := by
    rw [hw_metadata, prepare_controlled, ManagedObject.metadata_withMetadata]
  refine ⟨by rw [hfirst], by rw [hsecond], w, _, hstored, hstored', rfl, ?_⟩
  rw [← markedFor_again hnamespace hreferences]
  constructor
  · intro heq
    exact congrArg (fun v => v.metadata.ownerReferences) heq
  · intro heq
    rw [carrying, heq]

def registry : ManagedObject :=
  .registry ⟨{ name := some "registry", nameSpace := some "quay", uid := some "memory-1" }, 1, none⟩

/-- A configuration map that is in no namespace yet. -/
def unscoped : ManagedObject :=
  .builtin (.configMap { name := some "settings" } none none)

def emptyStore : Surroundings Memory := ⟨{}, default, [], []⟩

/-- The reference that names `registry` as a controller. -/
def registryReference : OwnerReference :=
  ⟨"quay.redhat.com/v1", "QuayRegistry", "registry", "memory-1", some true, some true⟩

theorem converge_twice_settings :
    let once := Surroundings.run Memory.respond (converge (controlled (some registry) none) settings) emptyStore
    let twice := Surroundings.run Memory.respond (converge (controlled (some registry) none) once.1.1) once.2
    ∃ w w', once.2.store.stored settingsKey = some w ∧ twice.2.store.stored settingsKey = some w' ∧
      w' = carrying w w' := by
  have hid : identify (prepare (controlled (some registry) none) settings) = .ok (settingsKey,
      { storedSettings with metadata := { storedSettings.metadata with
        ownerReferences := some [registryReference] } }) := rfl
  obtain ⟨hk, hd⟩ := identify_eq_ok.1 hid
  obtain ⟨-, -, w, w', hw, hw', -, hsame⟩ := converge_twice emptyStore ⟨[], rfl⟩ hk hd
  refine ⟨w, w', hw, hw', hsame.2 ?_⟩
  rintro ⟨v, r, hv, hlate⟩
  obtain ⟨ns, -, howner, -, hne⟩ := hlate.nameSpace
  cases hv
  cases howner
  exact hne rfl

/-- The second call marks an owner that the first one left out. -/
theorem converge_twice_unscoped :
    let once := Surroundings.run Memory.respond
      (converge (controlled (some registry) (some "quay")) unscoped) emptyStore
    let twice := Surroundings.run Memory.respond
      (converge (controlled (some registry) (some "quay")) once.1.1) once.2
    emptyStore.store.Reachable ∧
    identify (prepare (controlled (some registry) (some "quay")) unscoped) = .ok (settingsKey, storedSettings) ∧
    ∃ w w', once.2.store.stored settingsKey = some w ∧ twice.2.store.stored settingsKey = some w' ∧
      w.metadata.ownerReferences = none ∧ w'.metadata.ownerReferences = some [registryReference] ∧
      w' ≠ carrying w w' := by
  have hid : identify (prepare (controlled (some registry) (some "quay")) unscoped) =
      .ok (settingsKey, storedSettings) := rfl
  obtain ⟨hfirst, hobjects, -⟩ := run_converge hid emptyStore
  generalize Surroundings.run Memory.respond
    (converge (controlled (some registry) (some "quay")) unscoped) emptyStore = once at hfirst hobjects ⊢
  have hagain : identify (prepare (controlled (some registry) (some "quay")) once.1.1) = .ok (settingsKey,
      { storedSettings with metadata := { storedSettings.metadata with
        ownerReferences := some [registryReference], resourceVersion := some "1", uid := some "memory-1" } }) := by
    rw [hfirst]
    rfl
  obtain ⟨-, hobjects', -⟩ := run_converge hagain once.2
  have hstored := Table.find?_insert_self emptyStore.store.objects settingsKey.path
    (Memory.converged (emptyStore.store.stored settingsKey) storedSettings emptyStore.store.nextVersion)
  rw [← hobjects] at hstored
  have hstored' := (congrArg (fun t => Table.find? t settingsKey.path) hobjects').trans
    (Table.find?_insert_self _ _ _)
  refine ⟨⟨[], rfl⟩, hid, _, _, hstored, hstored', rfl, rfl, ?_⟩
  intro heq
  cases congrArg (fun v => v.metadata.ownerReferences) heq

end Synchronize

end Reconciliation
