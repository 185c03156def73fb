import Reconciliation.Proofs.Pass.Converge
/-!
# What converging an object stores

Run without interference, converging an identified object succeeds and puts one object into the store. That
object is the one that was handed over, but for the version, for the identifier and the status, which stay
those of the object that was there before, and for nothing else (`run_converge`).
-/

namespace Reconciliation

namespace Memory

/-- The identifier under which an object is stored: that of the object that is there already, or its own, or
else a new one. -/
def convergedUid (old : Option DynamicObject) (d : DynamicObject) (version : String) : Option String :=
  match old with
  | none => d.metadata.uid <|> some ("memory-" ++ version)
  | some old => old.metadata.uid

/-- The form in which an object is stored, be there one already or none. -/
def converged (old : Option DynamicObject) (d : DynamicObject) (version : String) : DynamicObject :=
  { d.withStatus (old.bind DynamicObject.status?) with
    metadata := { d.metadata with
      resourceVersion := some version, uid := convergedUid old d version } }

@[simp] theorem converged_types (old : Option DynamicObject) (d : DynamicObject) (version : String) :
    (converged old d version).types = d.types :=
  DynamicObject.withStatus_types d _

@[simp] theorem converged_metadata (old : Option DynamicObject) (d : DynamicObject) (version : String) :
    (converged old d version).metadata = { d.metadata with
      resourceVersion := some version, uid := convergedUid old d version } := rfl

theorem Valid.convergedUid_ne_none {m : Memory} (hm : m.Valid) (k : ObjectKey) (d : DynamicObject) :
    convergedUid (m.stored k) d m.nextVersion ≠ none := by
  cases hs : m.stored k with
  | none => cases h : d.metadata.uid <;> simp [convergedUid, h]
  | some old => exact Option.isSome_iff_ne_none.1 (hm.identified k.path old hs)

theorem newObject_eq_converged (d : DynamicObject) (version : String) :
    newObject d version = converged none d version := by
  simp only [newObject, withVersion, DynamicObject.withStatus_with_metadata, converged, convergedUid,
    Option.bind_none]

theorem updatedObject_eq_converged (old d : DynamicObject) (version : String) :
    updatedObject old d version = converged (some old) d version := by
  simp only [updatedObject, withVersion, DynamicObject.withStatus_with_metadata, converged, convergedUid,
    Option.bind_some]

theorem converged_carrying (old d stored : DynamicObject) (version : String) :
    converged (some old) (Synchronize.carrying d stored) version = converged (some old) d version := by
  simp only [converged, Synchronize.carrying, DynamicObject.withStatus_with_metadata, convergedUid]

end Memory

namespace Synchronize

variable {p : Placement} {o : ManagedObject} {k : ObjectKey} {d : DynamicObject}

theorem adopt_with_version (o : ManagedObject) (version : Option String) (stored : DynamicObject) :
    adopt (o.withMetadata { o.metadata with resourceVersion := version }) stored = adopt o stored := by
  simp only [adopt, ManagedObject.metadata_withMetadata, ManagedObject.withMetadata_withMetadata,
    ObjectMeta.adopt]

theorem run_afterLookup_found (o : ManagedObject) (d stored : DynamicObject) (m : Memory) :
    Dialogue.run Memory.respond (afterLookup o d (.ok stored)) m =
      (afterWrite (o.withMetadata { o.metadata with resourceVersion := stored.metadata.resourceVersion })
        (Memory.update (carrying d stored) m).1, (Memory.update (carrying d stored) m).2) := rfl

theorem run_afterLookup_notFound (o : ManagedObject) (d : DynamicObject) (kind name : String) (m : Memory) :
    Dialogue.run Memory.respond (afterLookup o d (.error (.notFound kind name))) m =
      (afterWrite o (Memory.create d m).1, (Memory.create d m).2) := rfl

/-- The store after an object was converged, and what the caller gets back. -/
theorem run_converge (h : identify (prepare p o) = .ok (k, d)) (s : Surroundings Memory) :
    let w := Memory.converged (s.store.stored k) d s.store.nextVersion
    let after := Surroundings.run Memory.respond (converge p o) s
    after.1 = (adopt (prepare p o) w, .ok ()) ∧
      after.2.store.objects = s.store.objects.insert k.path w ∧
      after.2.store.version = s.store.version + 1 := by
  intro w after
  have hkey := storeKey_of_identify h
  have hcalls : (after.1, after.2.store) = Dialogue.run Memory.respond
      (afterLookup (prepare p o) d (Memory.get k s.store).1) (Memory.get k s.store).2 := by
    rw [← Pass.run_calls, calls_converge h]
    rfl
  cases hs : s.store.stored k with
  | some old =>
    have hwritten : Memory.updatedObject old (carrying d old) s.store.nextVersion = w := by
      rw [Memory.updatedObject_eq_converged, Memory.converged_carrying, ← hs]
    have hfound : (s.store.record .get k.path).stored k = some old := hs
    have hupdate := Memory.update_present ((storeKey_carrying d old).trans hkey) hfound
      (Memory.checkVersion_same k rfl)
    rw [Memory.record_nextVersion, hwritten] at hupdate
    rw [Memory.get_present hs, run_afterLookup_found, hupdate, afterWrite, adopt_with_version,
      Prod.mk.injEq] at hcalls
    obtain ⟨hresult, hstore⟩ := hcalls
    rw [hresult, hstore]
    exact ⟨rfl, rfl, rfl⟩
  | none =>
    have hwritten : Memory.newObject d s.store.nextVersion = w := by
      rw [Memory.newObject_eq_converged, ← hs]
    have hmissing : (s.store.record .get k.path).stored k = none := hs
    have hcreate := Memory.create_absent hkey hmissing
    rw [Memory.record_nextVersion, hwritten] at hcreate
    rw [Memory.get_absent hs, run_afterLookup_notFound, hcreate, afterWrite, Prod.mk.injEq] at hcalls
    obtain ⟨hresult, hstore⟩ := hcalls
    rw [hresult, hstore]
    exact ⟨rfl, rfl, rfl⟩

/-- What converging an object comes to: the object `w` that is stored afterwards, in view of the object `d` that
was handed over and of the object `o'` that the caller gets back. -/
structure Converged (p : Placement) (o : ManagedObject) (k : ObjectKey) (d : DynamicObject)
    (before after : Memory) (o' : ManagedObject) (w : DynamicObject) : Prop where
  stored : after.stored k = some w
  types : w.types = o.types
  metadata : w.metadata = o'.metadata
  returned : o' = (prepare p o).withMetadata { (prepare p o).metadata with
    resourceVersion := some before.nextVersion, uid := w.metadata.uid }
  identified : w.metadata.uid ≠ none
  uid_eq : ∀ old, before.stored k = some old → w.metadata.uid = old.metadata.uid
  ownerReferences : ∀ owner, p.owner = some owner →
    w.metadata.ownerReferences = (p.stamper owner o.metadata).1.ownerReferences
  nameSpace : ∀ ns, p.nameSpace = some ns → ns ≠ "" → w.metadata.nameSpace = some ns
  status : w.status? = (before.stored k).bind DynamicObject.status?
  data : ∃ fs fs', d.data = .object fs ∧ w.data = .object fs' ∧
    Table.erase fs' "status" = Table.erase fs "status"
  length : after.objects.length = before.objects.length + if (before.stored k).isSome then 0 else 1
  others : ∀ path, path ≠ k.path → after.objects.find? path = before.objects.find? path

theorem adopt_converged {q : ManagedObject} {old : Option DynamicObject} {version : String}
    (hd : d.metadata = q.metadata) (huid : Memory.convergedUid old d version ≠ none) :
    adopt q (Memory.converged old d version) = q.withMetadata (Memory.converged old d version).metadata := by
  obtain ⟨uid, huid⟩ := Option.ne_none_iff_exists'.1 huid
  simp only [adopt, ObjectMeta.adopt, Memory.converged, huid, hd]
  rfl

/-- Converging an identified object that can be written succeeds, alone with any store that is reachable. -/
theorem converge_converges (s : Surroundings Memory) (hreachable : s.store.Reachable)
    (hk : ObjectKey.of (prepare p o) = .ok k) (hd : (prepare p o).toDynamic = .ok d) :
    ∃ o' w, (Surroundings.run Memory.respond (converge p o) s).1 = (o', .ok ()) ∧
      Converged p o k d s.store (Surroundings.run Memory.respond (converge p o) s).2.store o' w := by
  obtain ⟨hresult, hobjects, -⟩ := run_converge (identify_eq_ok.2 ⟨hk, hd⟩) s
  obtain ⟨htypes, hmetadata, fs, hfs⟩ := ManagedObject.toDynamic_ok hd
  have hvalid := hreachable.valid
  have huid := hvalid.convergedUid_ne_none k d
  rw [adopt_converged hmetadata huid] at hresult
  refine ⟨_, Memory.converged (s.store.stored k) d s.store.nextVersion, hresult, ?_⟩
  constructor
  case stored =>
    rw [Memory.stored, hobjects, Table.find?_insert_self]
  case types =>
    rw [Memory.converged_types, htypes, prepare_eq, ManagedObject.types_withMetadata]
  case metadata =>
    rw [ManagedObject.metadata_withMetadata]
  case returned =>
    rw [Memory.converged_metadata, hmetadata]
  case identified =>
    exact huid
  case uid_eq =>
    intro old hold
    rw [Memory.converged_metadata, hold, Memory.convergedUid]
  case ownerReferences =>
    intro owner howner
    rw [Memory.converged_metadata, hmetadata, prepare_eq, ManagedObject.metadata_withMetadata,
      ObjectMeta.inNamespace_ownerReferences, stamped, howner]
  case nameSpace =>
    intro ns hns hne
    rw [Memory.converged_metadata, hmetadata, prepare_eq, ManagedObject.metadata_withMetadata, hns,
      ObjectMeta.inNamespace_of_ne _ hne]
  case status =>
    exact DynamicObject.status?_withStatus hfs _
  case data =>
    obtain ⟨fs', hfs', -, herase⟩ := DynamicObject.withStatus_data hfs _
    exact ⟨fs, fs', hfs, hfs', herase⟩
  case length =>
    cases hs : s.store.stored k with
    | none =>
      rw [hobjects, hs, Table.length_insert_of_find?_eq_none _ hs]
      rfl
    | some old =>
      rw [hobjects, hs, Table.length_insert_of_find?_eq_some hvalid.ordered _ hs]
      rfl
  case others =>
    intro path hpath
    rw [hobjects, Table.find?_insert_of_ne _ _ hpath]

/-- A store that has `settings` already. -/
def withSettings : Surroundings Memory where
  store := Memory.run {} [.call (.create storedSettings)]
  clock := default

theorem converge_converges_settings :
    let after := Surroundings.run Memory.respond (converge unplaced settings) withSettings
    ∃ o' w, after.1 = (o', .ok ()) ∧ after.2.store.stored settingsKey = some w ∧
      w.metadata = o'.metadata ∧ w.metadata.uid = some "memory-1" ∧ after.2.store.objects.length = 1 := by
  intro after
  obtain ⟨hk, hd⟩ := identify_eq_ok.1 identify_settings
  obtain ⟨o', w, hresult, h⟩ := converge_converges withSettings ⟨_, rfl⟩ hk hd
  have hold : withSettings.store.stored settingsKey =
      some (Memory.newObject storedSettings "1") := rfl
  have huid : (Memory.newObject storedSettings "1").metadata.uid = some "memory-1" := rfl
  exact ⟨o', w, hresult, h.stored, h.metadata, (h.uid_eq _ hold).trans huid, h.length⟩

end Synchronize

end Reconciliation
