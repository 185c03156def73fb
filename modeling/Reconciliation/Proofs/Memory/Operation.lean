import Reconciliation.Proofs.Table
import Reconciliation.Store.Memory
/-!
# What the store in memory answers

Each operation has an equation for each way in which it can end, in terms of the identity of the object
that it is given and of what is stored under that identity. `Response` puts them together: a call leaves
what is stored alone, or stores one object with the next version, or removes one object. The rest reaches
the operations through it wherever the way in which a call ended does not matter.
-/

namespace Reconciliation

namespace DynamicObject

/-! ### Objects with another status -/

@[simp] theorem withStatus_types (o : DynamicObject) (status : Option Json) :
    (o.withStatus status).types = o.types := by
  unfold withStatus
  split <;> rfl

@[simp] theorem withStatus_metadata (o : DynamicObject) (status : Option Json) :
    (o.withStatus status).metadata = o.metadata := by
  unfold withStatus
  split <;> rfl

theorem withStatus_with_metadata (o : DynamicObject) (m : ObjectMeta) (status : Option Json) :
    withStatus { o with metadata := m } status = { o.withStatus status with metadata := m } := by
  obtain ⟨types, metadata, data⟩ := o
  cases data <;> rfl

/-- Only the status of the payload changes. -/
theorem withStatus_data {o : DynamicObject} {fs : Table Json} (h : o.data = .object fs)
    (status : Option Json) :
    ∃ fs', (o.withStatus status).data = .object fs' ∧ Table.find? fs' "status" = status ∧
      Table.erase fs' "status" = Table.erase fs "status" := by
  rw [withStatus, h]
  cases status with
  | none => exact ⟨_, rfl, Table.find?_erase_self fs "status", Table.erase_erase_self fs "status"⟩
  | some j => exact ⟨_, rfl, Table.find?_insert_self fs "status" j, Table.erase_insert_self fs "status" j⟩

theorem status?_withStatus {o : DynamicObject} {fs : Table Json} (h : o.data = .object fs)
    (status : Option Json) : (o.withStatus status).status? = status := by
  obtain ⟨fs', hdata, hstatus, -⟩ := withStatus_data h status
  rw [status?, hdata]
  exact hstatus

end DynamicObject

/-- The identity of an object hangs on its types, its name and its namespace alone. -/
theorem storeKey_congr {a b : DynamicObject} (types : a.types = b.types)
    (name : a.metadata.name = b.metadata.name)
    (nameSpace : a.metadata.nameSpace = b.metadata.nameSpace) : storeKey a = storeKey b := by
  simp only [storeKey, ObjectKey.ofDynamic, ObjectKey.ofParts, types, name, nameSpace]

theorem storeKey_eq_ok_iff {o : DynamicObject} {k : ObjectKey} :
    storeKey o = .ok k ↔ ObjectKey.ofDynamic o = .ok k := by
  rw [storeKey]
  cases ObjectKey.ofDynamic o with
  | ok => simp
  | error => simp

theorem storeKey_of_ofDynamic_error {o : DynamicObject} {i : ResourceError}
    (h : ObjectKey.ofDynamic o = .error i) : storeKey o = .error (.invalid i.message) := by
  rw [storeKey, h]

namespace StoreCall

/-- The path at which a call may change what is stored, if it is given an identified object. -/
def path? : StoreCall → Option String
  | get _ => none
  | create o | update o | updateStatus o | delete o =>
    match storeKey o with
    | .ok k => some k.path
    | .error _ => none

/-- The path at which a call reads or changes what is stored. -/
def touched? : StoreCall → Option String
  | get k => some k.path
  | c => c.path?

theorem touched?_of_path? {c : StoreCall} {path : String} (h : c.path? = some path) : c.touched? = some path := by
  cases c with
  | get k => cases h
  | create | update | updateStatus | delete => exact h

/-- Why a call failed. -/
def error? : (c : StoreCall) → c.Answer → Option StoreError
  | get _, .ok _ => none
  | get _, .error e => some e
  | create _, .ok _ => none
  | create _, .error e => some e
  | update _, .ok _ => none
  | update _, .error e => some e
  | updateStatus _, .ok _ => none
  | updateStatus _, .error e => some e
  | delete _, .ok _ => none
  | delete _, .error e => some e

/-- The object that a call wrote, as it was stored. -/
def written? : (c : StoreCall) → c.Answer → Option DynamicObject
  | create _, .ok o => some o
  | update _, .ok o => some o
  | updateStatus _, .ok o => some o
  | _, _ => none

end StoreCall

namespace Memory

@[simp] theorem record_objects (m : Memory) (kind : CallKind) (path : String) :
    (m.record kind path).objects = m.objects := rfl

@[simp] theorem record_rejectsStatus (m : Memory) (kind : CallKind) (path : String) :
    (m.record kind path).rejectsStatus = m.rejectsStatus := rfl

@[simp] theorem record_nextVersion (m : Memory) (kind : CallKind) (path : String) :
    (m.record kind path).nextVersion = m.nextVersion := rfl

@[simp] theorem record_stored (m : Memory) (kind : CallKind) (path : String) (k : ObjectKey) :
    (m.record kind path).stored k = m.stored k := rfl

/-! ### The forms in which objects are stored -/

@[simp] theorem newObject_resourceVersion (o : DynamicObject) (version : String) :
    (newObject o version).metadata.resourceVersion = some version := by
  simp [newObject, withVersion]

@[simp] theorem newObject_uid (o : DynamicObject) (version : String) :
    (newObject o version).metadata.uid = (o.metadata.uid <|> some ("memory-" ++ version)) := by
  simp [newObject, withVersion]

@[simp] theorem storeKey_newObject (o : DynamicObject) (version : String) :
    storeKey (newObject o version) = storeKey o :=
  storeKey_congr (by simp [newObject, withVersion]) (by simp [newObject, withVersion])
    (by simp [newObject, withVersion])

@[simp] theorem updatedObject_resourceVersion (stored incoming : DynamicObject) (version : String) :
    (updatedObject stored incoming version).metadata.resourceVersion = some version := by
  simp [updatedObject, withVersion]

@[simp] theorem updatedObject_uid (stored incoming : DynamicObject) (version : String) :
    (updatedObject stored incoming version).metadata.uid = stored.metadata.uid := by
  simp [updatedObject]

@[simp] theorem storeKey_updatedObject (stored incoming : DynamicObject) (version : String) :
    storeKey (updatedObject stored incoming version) = storeKey incoming :=
  storeKey_congr (by simp [updatedObject, withVersion]) (by simp [updatedObject, withVersion])
    (by simp [updatedObject, withVersion])

@[simp] theorem restatedObject_resourceVersion (stored incoming : DynamicObject) (version : String) :
    (restatedObject stored incoming version).metadata.resourceVersion = some version := by
  simp [restatedObject, withVersion]

@[simp] theorem restatedObject_uid (stored incoming : DynamicObject) (version : String) :
    (restatedObject stored incoming version).metadata.uid = stored.metadata.uid := by
  simp [restatedObject, withVersion]

@[simp] theorem storeKey_restatedObject (stored incoming : DynamicObject) (version : String) :
    storeKey (restatedObject stored incoming version) = storeKey stored :=
  storeKey_congr (by simp [restatedObject, withVersion]) (by simp [restatedObject, withVersion])
    (by simp [restatedObject, withVersion])

/-! ### Versions that writes carry -/

theorem checkVersion_none (k : ObjectKey) (stored : DynamicObject) {incoming : DynamicObject}
    (h : incoming.metadata.resourceVersion = none) : checkVersion k stored incoming = .ok () := by
  simp [checkVersion, h]

theorem checkVersion_same (k : ObjectKey) {stored incoming : DynamicObject}
    (h : stored.metadata.resourceVersion = incoming.metadata.resourceVersion) :
    checkVersion k stored incoming = .ok () := by
  cases hv : incoming.metadata.resourceVersion with
  | none => exact checkVersion_none k stored hv
  | some version => simp [checkVersion, hv, h]

theorem checkVersion_stale (k : ObjectKey) {stored incoming : DynamicObject} {version : String}
    (hv : incoming.metadata.resourceVersion = some version)
    (h : stored.metadata.resourceVersion ≠ some version) :
    checkVersion k stored incoming = .error (.conflict k.kind.kind k.name
      ("the object has been modified; resourceVersion " ++ version ++ " is stale")) := by
  simp [checkVersion, hv, h]

theorem checkVersion_cases (k : ObjectKey) (stored incoming : DynamicObject) :
    checkVersion k stored incoming = .ok () ∨
      ∃ version, incoming.metadata.resourceVersion = some version ∧
        stored.metadata.resourceVersion ≠ some version := by
  cases hv : incoming.metadata.resourceVersion with
  | none => exact .inl (checkVersion_none k stored hv)
  | some version =>
    by_cases h : stored.metadata.resourceVersion = some version
    · exact .inl (checkVersion_same k (h.trans hv.symm))
    · exact .inr ⟨version, rfl, h⟩

/-! ### Answers -/

variable {m : Memory} {k : ObjectKey} {o stored : DynamicObject}

theorem get_present (h : m.stored k = some stored) :
    get k m = (.ok stored, m.record .get k.path) := by
  rw [Memory.stored] at h
  simp [get, h]

theorem get_absent (h : m.stored k = none) :
    get k m = (.error (.notFound k.kind.kind k.name), m.record .get k.path) := by
  rw [Memory.stored] at h
  simp [get, h]

theorem create_invalid {e : StoreError} (hk : storeKey o = .error e) :
    create o m = (.error e, m) := by
  simp [create, hk]

theorem create_absent (hk : storeKey o = .ok k) (h : m.stored k = none) :
    create o m = (.ok (newObject o m.nextVersion),
      (m.record .create k.path).put k.path (newObject o m.nextVersion)) := by
  rw [Memory.stored] at h
  simp [create, hk, Table.contains, h]

theorem create_present (hk : storeKey o = .ok k) (h : m.stored k = some stored) :
    create o m = (.error (.alreadyExists k.kind.kind k.name), m.record .create k.path) := by
  rw [Memory.stored] at h
  simp [create, hk, Table.contains, h]

/-- Updates and status writes end alike. -/
theorem overwrite_absent (write : DynamicObject → DynamicObject → String → DynamicObject)
    (h : m.stored k = none) :
    overwrite k o write m = (.error (.notFound k.kind.kind k.name), m) := by
  rw [Memory.stored] at h
  simp [overwrite, h]

theorem overwrite_present (write : DynamicObject → DynamicObject → String → DynamicObject)
    (h : m.stored k = some stored) (hv : checkVersion k stored o = .ok ()) :
    overwrite k o write m =
      (.ok (write stored o m.nextVersion), m.put k.path (write stored o m.nextVersion)) := by
  rw [Memory.stored] at h
  simp [overwrite, h, hv]

theorem overwrite_stale (write : DynamicObject → DynamicObject → String → DynamicObject)
    (h : m.stored k = some stored) {e : StoreError} (hv : checkVersion k stored o = .error e) :
    overwrite k o write m = (.error e, m) := by
  rw [Memory.stored] at h
  simp [overwrite, h, hv]

theorem overwrite_cases (k : ObjectKey) (o : DynamicObject)
    (write : DynamicObject → DynamicObject → String → DynamicObject) (m : Memory) :
    (∃ e, overwrite k o write m = (.error e, m)) ∨
    ∃ stored, m.stored k = some stored ∧ overwrite k o write m =
      (.ok (write stored o m.nextVersion), m.put k.path (write stored o m.nextVersion)) := by
  cases hs : m.stored k with
  | none => exact .inl ⟨_, overwrite_absent write hs⟩
  | some stored =>
    cases hv : checkVersion k stored o with
    | error e => exact .inl ⟨e, overwrite_stale write hs hv⟩
    | ok => exact .inr ⟨stored, rfl, overwrite_present write hs hv⟩

theorem update_invalid {e : StoreError} (hk : storeKey o = .error e) :
    update o m = (.error e, m) := by
  simp [update, hk]

theorem update_eq (hk : storeKey o = .ok k) :
    update o m = overwrite k o updatedObject (m.record .update k.path) := by
  simp [update, hk]

theorem update_absent (hk : storeKey o = .ok k) (h : m.stored k = none) :
    update o m = (.error (.notFound k.kind.kind k.name), m.record .update k.path) := by
  rw [← record_stored m .update k.path] at h
  rw [update_eq hk, overwrite_absent updatedObject h]

theorem update_present (hk : storeKey o = .ok k) (h : m.stored k = some stored)
    (hv : checkVersion k stored o = .ok ()) :
    update o m = (.ok (updatedObject stored o m.nextVersion),
      (m.record .update k.path).put k.path (updatedObject stored o m.nextVersion)) := by
  rw [← record_stored m .update k.path] at h
  rw [update_eq hk, overwrite_present updatedObject h hv, record_nextVersion]

theorem update_stale (hk : storeKey o = .ok k) (h : m.stored k = some stored) {e : StoreError}
    (hv : checkVersion k stored o = .error e) :
    update o m = (.error e, m.record .update k.path) := by
  rw [← record_stored m .update k.path] at h
  rw [update_eq hk, overwrite_stale updatedObject h hv]

theorem updateStatus_invalid {e : StoreError} (hk : storeKey o = .error e) :
    updateStatus o m = (.error e, m) := by
  simp [updateStatus, hk]

theorem updateStatus_eq (hk : storeKey o = .ok k) (h : m.rejectsStatus = false) :
    updateStatus o m = overwrite k o restatedObject (m.record .updateStatus k.path) := by
  simp [updateStatus, hk, h]

theorem updateStatus_rejected (hk : storeKey o = .ok k) (h : m.rejectsStatus = true) :
    updateStatus o m = (.error (.unavailable "status subresource rejected the write"),
      m.record .updateStatus k.path) := by
  simp [updateStatus, hk, h]

theorem delete_invalid {e : StoreError} (hk : storeKey o = .error e) :
    delete o m = (.error e, m) := by
  simp [delete, hk]

theorem delete_present (hk : storeKey o = .ok k) (h : m.stored k = some stored) :
    delete o m = (.ok (), { m.record .delete k.path with objects := m.objects.erase k.path }) := by
  rw [Memory.stored] at h
  simp [delete, hk, Table.contains, h]

theorem delete_absent (hk : storeKey o = .ok k) (h : m.stored k = none) :
    delete o m = (.error (.notFound k.kind.kind k.name), m.record .delete k.path) := by
  rw [Memory.stored] at h
  simp [delete, hk, Table.contains, h]

/-- The objects after a deletion, be there one to delete or none. -/
theorem delete_store (hk : storeKey o = .ok k) (m : Memory) :
    (delete o m).2 = { m.record .delete k.path with objects := m.objects.erase k.path } := by
  cases h : m.stored k with
  | none =>
    rw [delete_absent hk h, Table.erase_of_find?_eq_none h]
    rfl
  | some stored => rw [delete_present hk h]

/-! ### What a call does to what is stored -/

/-- An object that a write may leave under a path: it has the next version, it is filed by its own identity
or by that of the object before it, and it has the identifier of the object before it or some identifier. -/
structure Storable (m : Memory) (path : String) (o : DynamicObject) : Prop where
  resourceVersion : o.metadata.resourceVersion = some m.nextVersion
  filed : (∃ k, storeKey o = .ok k ∧ k.path = path) ∨
    ∃ old, m.objects.find? path = some old ∧ storeKey o = storeKey old
  identified : m.objects.find? path = none → o.metadata.uid.isSome
  uid_eq : ∀ old, m.objects.find? path = some old → o.metadata.uid = old.metadata.uid

/-- The ways in which a store in memory responds to a call: with an error or not, with a written object or
without one, and with what is stored afterwards. -/
inductive Response (m : Memory) (c : StoreCall) :
    Option StoreError → Option DynamicObject → Memory → Prop
  | unchanged (e : Option StoreError) (m' : Memory) (read : e = none → c.path? = none)
      (objects : m'.objects = m.objects) (version : m'.version = m.version) : Response m c e none m'
  | stored (path : String) (o : DynamicObject) (m' : Memory) (target : c.path? = some path)
      (storable : m.Storable path o) (objects : m'.objects = m.objects.insert path o)
      (version : m'.version = m.version + 1) : Response m c none (some o) m'
  | removed (path : String) (d : DynamicObject) (m' : Memory) (call : c = .delete d)
      (target : c.path? = some path) (objects : m'.objects = m.objects.erase path)
      (version : m'.version = m.version) : Response m c none none m'

theorem path?_of_storeKey {c : StoreCall} {o : DynamicObject} {k : ObjectKey}
    (hc : c = .create o ∨ c = .update o ∨ c = .updateStatus o ∨ c = .delete o)
    (hk : storeKey o = .ok k) : c.path? = some k.path := by
  rcases hc with rfl | rfl | rfl | rfl <;> simp [StoreCall.path?, hk]

theorem storable_newObject {m : Memory} {k : ObjectKey} {o : DynamicObject}
    (hk : storeKey o = .ok k) (h : m.stored k = none) :
    m.Storable k.path (newObject o m.nextVersion) where
  resourceVersion := newObject_resourceVersion o _
  filed := .inl ⟨k, by rw [storeKey_newObject, hk], rfl⟩
  identified := by
    intro _
    rw [newObject_uid]
    cases o.metadata.uid <;> rfl
  uid_eq := by
    intro old hold
    rw [Memory.stored, hold] at h
    cases h

/-- In place of a stored object, the identifier is the one to keep. -/
theorem storable_of_uid_eq {m : Memory} {path : String} {o old : DynamicObject}
    (h : m.objects.find? path = some old)
    (resourceVersion : o.metadata.resourceVersion = some m.nextVersion)
    (filed : (∃ k, storeKey o = .ok k ∧ k.path = path) ∨ storeKey o = storeKey old)
    (uid : o.metadata.uid = old.metadata.uid) : m.Storable path o where
  resourceVersion := resourceVersion
  filed := filed.imp_right fun heq => ⟨old, h, heq⟩
  identified := by
    intro hnone
    rw [hnone] at h
    cases h
  uid_eq := by
    intro old' hold'
    rw [h] at hold'
    cases hold'
    exact uid

theorem storable_updatedObject {m : Memory} {k : ObjectKey} {o stored : DynamicObject}
    (hk : storeKey o = .ok k) (h : m.stored k = some stored) :
    m.Storable k.path (updatedObject stored o m.nextVersion) :=
  storable_of_uid_eq h (updatedObject_resourceVersion stored o _)
    (.inl ⟨k, by rw [storeKey_updatedObject, hk], rfl⟩) (updatedObject_uid stored o _)

theorem storable_restatedObject {m : Memory} {k : ObjectKey} {o stored : DynamicObject}
    (h : m.stored k = some stored) :
    m.Storable k.path (restatedObject stored o m.nextVersion) :=
  storable_of_uid_eq h (restatedObject_resourceVersion stored o _)
    (.inr (storeKey_restatedObject stored o _)) (restatedObject_uid stored o _)

theorem response (c : StoreCall) (m : Memory) :
    Response m c (c.error? (respond c m).1) (c.written? (respond c m).1) (respond c m).2 := by
  cases c with
  | get k =>
    cases hs : m.stored k with
    | none =>
      simp only [respond, get_absent hs, StoreCall.error?, StoreCall.written?]
      exact .unchanged _ _ (fun _ => rfl) rfl rfl
    | some stored =>
      simp only [respond, get_present hs, StoreCall.error?, StoreCall.written?]
      exact .unchanged _ _ (fun _ => rfl) rfl rfl
  | create o =>
    cases hk : storeKey o with
    | error e =>
      simp only [respond, create_invalid hk, StoreCall.error?, StoreCall.written?]
      exact .unchanged _ _ (by simp) rfl rfl
    | ok k =>
      cases hs : m.stored k with
      | some stored =>
        simp only [respond, create_present hk hs, StoreCall.error?, StoreCall.written?]
        exact .unchanged _ _ (by simp) rfl rfl
      | none =>
        simp only [respond, create_absent hk hs, StoreCall.error?, StoreCall.written?]
        exact .stored k.path _ _ (path?_of_storeKey (by simp) hk) (storable_newObject hk hs) rfl rfl
  | update o =>
    cases hk : storeKey o with
    | error e =>
      simp only [respond, update_invalid hk, StoreCall.error?, StoreCall.written?]
      exact .unchanged _ _ (by simp) rfl rfl
    | ok k =>
      rcases overwrite_cases k o updatedObject (m.record .update k.path) with ⟨e, h⟩ | ⟨stored, hs, h⟩
      · simp only [respond, update_eq hk, h, StoreCall.error?, StoreCall.written?]
        exact .unchanged _ _ (by simp) rfl rfl
      · simp only [respond, update_eq hk, h, StoreCall.error?, StoreCall.written?]
        exact .stored k.path _ _ (path?_of_storeKey (by simp) hk) (storable_updatedObject hk hs) rfl rfl
  | updateStatus o =>
    cases hk : storeKey o with
    | error e =>
      simp only [respond, updateStatus_invalid hk, StoreCall.error?, StoreCall.written?]
      exact .unchanged _ _ (by simp) rfl rfl
    | ok k =>
      cases hr : m.rejectsStatus with
      | true =>
        simp only [respond, updateStatus_rejected hk hr, StoreCall.error?, StoreCall.written?]
        exact .unchanged _ _ (by simp) rfl rfl
      | false =>
        rcases overwrite_cases k o restatedObject (m.record .updateStatus k.path)
          with ⟨e, h⟩ | ⟨stored, hs, h⟩
        · simp only [respond, updateStatus_eq hk hr, h, StoreCall.error?, StoreCall.written?]
          exact .unchanged _ _ (by simp) rfl rfl
        · simp only [respond, updateStatus_eq hk hr, h, StoreCall.error?, StoreCall.written?]
          exact .stored k.path _ _ (path?_of_storeKey (by simp) hk) (storable_restatedObject hs) rfl rfl
  | delete o =>
    cases hk : storeKey o with
    | error e =>
      simp only [respond, delete_invalid hk, StoreCall.error?, StoreCall.written?]
      exact .unchanged _ _ (by simp) rfl rfl
    | ok k =>
      cases hs : m.stored k with
      | none =>
        simp only [respond, delete_absent hk hs, StoreCall.error?, StoreCall.written?]
        exact .unchanged _ _ (by simp) rfl rfl
      | some stored =>
        simp only [respond, delete_present hk hs, StoreCall.error?, StoreCall.written?]
        exact .removed k.path o _ rfl (path?_of_storeKey (by simp) hk) rfl rfl

namespace Response

variable {m m' : Memory} {c : StoreCall} {e : Option StoreError} {w : Option DynamicObject}
  {path : String}

/-- A failed call changes neither what is stored nor the version. -/
theorem eq_of_error (h : Response m c e w m') (he : e ≠ none) :
    m'.objects = m.objects ∧ m'.version = m.version := by
  cases h with
  | unchanged _ _ _ objects version => exact ⟨objects, version⟩
  | stored => exact absurd rfl he
  | removed => exact absurd rfl he

theorem version_le (h : Response m c e w m') : m.version ≤ m'.version := by
  cases h with
  | unchanged _ _ _ _ version => exact Nat.le_of_eq version.symm
  | stored _ _ _ _ _ _ version => omega
  | removed _ _ _ _ _ _ version => exact Nat.le_of_eq version.symm

/-- A written object has the next version, and the store has gone on to that version. -/
theorem version_of_written (h : Response m c e w m') {o : DynamicObject} (hw : w = some o) :
    o.metadata.resourceVersion = some m.nextVersion ∧ m'.version = m.version + 1 := by
  cases h with
  | unchanged => cases hw
  | stored _ _ _ _ storable _ version =>
    cases hw
    exact ⟨storable.resourceVersion, version⟩
  | removed => cases hw

/-- A call changes nothing under other paths than its own, and nothing at all if it fails. -/
theorem find?_eq (h : Response m c e w m') (hp : ¬ (c.path? = some path ∧ e = none)) :
    m'.objects.find? path = m.objects.find? path := by
  cases h with
  | unchanged _ _ _ objects _ => rw [objects]
  | stored _ _ _ target _ objects _ =>
    rw [objects]
    exact Table.find?_insert_of_ne _ _ fun heq => hp ⟨heq ▸ target, rfl⟩
  | removed _ _ _ _ target objects _ =>
    rw [objects]
    exact Table.find?_erase_of_ne _ fun heq => hp ⟨heq ▸ target, rfl⟩

/-- After a call that succeeded, what is stored under its path is what the call wrote. -/
theorem find?_path (h : Response m c e w m') (hp : c.path? = some path) (he : e = none) :
    m'.objects.find? path = w := by
  cases h with
  | unchanged _ _ read _ _ => simp [read he] at hp
  | stored _ _ _ target _ objects _ =>
    cases target.symm.trans hp
    rw [objects, Table.find?_insert_self]
  | removed _ _ _ _ target objects _ =>
    cases target.symm.trans hp
    rw [objects, Table.find?_erase_self]

end Response

end Memory

end Reconciliation
