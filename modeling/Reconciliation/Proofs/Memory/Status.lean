import Reconciliation.Proofs.Memory.Run
/-!
# The two ways to write

Creations and updates write all of an object but its status, and status writes write nothing else. A status
lives in the payload, which can hold one only if it is an object (`DynamicObject.HasFields`). For payloads of
this form the two ways are apart. Any other payload drops the status: an update with it loses the status that
was stored, and a status write to it stores none (`status_written`).
-/

namespace Reconciliation

namespace DynamicObject

/-- The payload is an object, so it can hold a status. -/
def HasFields (o : DynamicObject) : Prop :=
  ∃ fs, o.data = .object fs

/-- All of two objects is the same but for their versions and their statuses. -/
structure SameButStatus (a b : DynamicObject) : Prop where
  types : a.types = b.types
  metadata : a.metadata = { b.metadata with resourceVersion := a.metadata.resourceVersion }
  data : a.data = b.data ∨ ∃ fs gs, a.data = .object fs ∧ b.data = .object gs ∧
    Table.erase fs "status" = Table.erase gs "status"

variable {o : DynamicObject}

theorem status?_of_not_hasFields (h : ¬ o.HasFields) : o.status? = none := by
  unfold status? Json.field?
  cases hdata : o.data with
  | object fs => exact absurd ⟨fs, hdata⟩ h
  | _ => rfl

theorem withStatus_of_not_hasFields (h : ¬ o.HasFields) (status : Option Json) :
    o.withStatus status = o := by
  unfold withStatus
  cases hdata : o.data with
  | object fs => exact absurd ⟨fs, hdata⟩ h
  | _ => rfl

theorem HasFields.withStatus (h : o.HasFields) (status : Option Json) : (o.withStatus status).HasFields := by
  obtain ⟨fs, hfs⟩ := h
  obtain ⟨gs, hgs, -, -⟩ := withStatus_data hfs status
  exact ⟨gs, hgs⟩

/-- Only a payload with fields takes a status. None is taken by every payload. -/
theorem status?_withStatus_iff (o : DynamicObject) (status : Option Json) :
    (o.withStatus status).status? = status ↔ o.HasFields ∨ status = none := by
  by_cases h : o.HasFields
  · obtain ⟨fs, hfs⟩ := h
    exact iff_of_true (status?_withStatus hfs status) (.inl ⟨fs, hfs⟩)
  · rw [withStatus_of_not_hasFields h, status?_of_not_hasFields h]
    constructor
    · intro hnone
      exact .inr hnone.symm
    · intro hor
      exact (hor.resolve_left h).symm

theorem sameButStatus_withStatus (o : DynamicObject) (version : String) (status : Option Json) :
    SameButStatus ((Memory.withVersion o version).withStatus status) o where
  types := by rw [withStatus_types, Memory.withVersion]
  metadata := by
    rw [withStatus_metadata]
    rfl
  data := by
    rw [Memory.withVersion, withStatus_with_metadata]
    by_cases h : o.HasFields
    · obtain ⟨fs, hfs⟩ := h
      obtain ⟨gs, hgs, -, herase⟩ := withStatus_data hfs status
      exact .inr ⟨gs, fs, hgs, hfs, herase⟩
    · rw [withStatus_of_not_hasFields h]
      exact .inl rfl

end DynamicObject

namespace Memory

variable {m : Memory} {k : ObjectKey} {o stored w : DynamicObject}

/-! ### What a write that succeeded has stored -/

theorem create_ok (h : (create o m).1 = .ok w) :
    ∃ k, storeKey o = .ok k ∧ m.stored k = none ∧ w = newObject o m.nextVersion ∧
      (create o m).2.stored k = some w := by
  cases hk : storeKey o with
  | error e =>
    rw [create_invalid hk] at h
    cases h
  | ok k =>
    cases hs : m.stored k with
    | some stored =>
      rw [create_present hk hs] at h
      cases h
    | none =>
      rw [create_absent hk hs] at h ⊢
      cases h
      exact ⟨k, rfl, hs, rfl, Table.find?_insert_self _ _ _⟩

theorem update_ok (h : (update o m).1 = .ok w) :
    ∃ k old, storeKey o = .ok k ∧ m.stored k = some old ∧ w = updatedObject old o m.nextVersion ∧
      (update o m).2.stored k = some w := by
  cases hk : storeKey o with
  | error e =>
    rw [update_invalid hk] at h
    cases h
  | ok k =>
    rw [update_eq hk] at h ⊢
    rcases overwrite_cases k o updatedObject (m.record .update k.path) with ⟨e, hfail⟩ | ⟨old, hs, hok⟩
    · rw [hfail] at h
      cases h
    · rw [hok] at h ⊢
      cases h
      exact ⟨k, old, rfl, hs, rfl, Table.find?_insert_self _ _ _⟩

theorem updateStatus_ok (h : (updateStatus o m).1 = .ok w) :
    ∃ k old, storeKey o = .ok k ∧ m.stored k = some old ∧ w = restatedObject old o m.nextVersion ∧
      (updateStatus o m).2.stored k = some w := by
  cases hk : storeKey o with
  | error e =>
    rw [updateStatus_invalid hk] at h
    cases h
  | ok k =>
    cases hr : m.rejectsStatus with
    | true =>
      rw [updateStatus_rejected hk hr] at h
      cases h
    | false =>
      rw [updateStatus_eq hk hr] at h ⊢
      rcases overwrite_cases k o restatedObject (m.record .updateStatus k.path)
        with ⟨e, hfail⟩ | ⟨old, hs, hok⟩
      · rw [hfail] at h
        cases h
      · rw [hok] at h ⊢
        cases h
        exact ⟨k, old, rfl, hs, rfl, Table.find?_insert_self _ _ _⟩

/-! ### The status of what was stored -/

theorem status?_newObject (o : DynamicObject) (version : String) : (newObject o version).status? = none := by
  have h : ((withVersion o version).withStatus none).status? = none :=
    (DynamicObject.status?_withStatus_iff _ none).2 (.inr rfl)
  exact h

theorem status?_updatedObject_iff (old o : DynamicObject) (version : String) :
    (updatedObject old o version).status? = old.status? ↔ o.HasFields ∨ old.status? = none :=
  DynamicObject.status?_withStatus_iff (withVersion o version) old.status?

theorem status?_restatedObject_iff (old o : DynamicObject) (version : String) :
    (restatedObject old o version).status? = o.status? ↔ old.HasFields ∨ o.status? = none :=
  DynamicObject.status?_withStatus_iff (withVersion old version) o.status?

/-- A creation stores no status. An update keeps the stored status, unless there is one and the payload that it
brings has no fields. A status write changes nothing but the status and the version, and it stores the status that
it brings, unless it brings one and the stored payload has no fields. -/
theorem status_written (m : Memory) (o w : DynamicObject) :
    ((create o m).1 = .ok w →
      ∃ k, storeKey o = .ok k ∧ (create o m).2.stored k = some w ∧ w.status? = none) ∧
    ((update o m).1 = .ok w →
      ∃ k old, storeKey o = .ok k ∧ m.stored k = some old ∧ (update o m).2.stored k = some w ∧
        (w.status? = old.status? ↔ o.HasFields ∨ old.status? = none)) ∧
    ((updateStatus o m).1 = .ok w →
      ∃ k old, storeKey o = .ok k ∧ m.stored k = some old ∧ (updateStatus o m).2.stored k = some w ∧
        w.SameButStatus old ∧ (w.status? = o.status? ↔ old.HasFields ∨ o.status? = none)) := by
  refine ⟨?_, ?_, ?_⟩
  · intro h
    obtain ⟨k, hk, -, rfl, hw⟩ := create_ok h
    exact ⟨k, hk, hw, status?_newObject o _⟩
  · intro h
    obtain ⟨k, old, hk, hold, rfl, hw⟩ := update_ok h
    exact ⟨k, old, hk, hold, hw, status?_updatedObject_iff old o _⟩
  · intro h
    obtain ⟨k, old, hk, hold, rfl, hw⟩ := updateStatus_ok h
    exact ⟨k, old, hk, hold, hw, DynamicObject.sameButStatus_withStatus old _ _,
      status?_restatedObject_iff old o _⟩

def ready : DynamicObject :=
  ⟨some ⟨"v1", "ConfigMap"⟩, { name := some "settings" }, .object [("status", .string "ready")]⟩

def readyKey : ObjectKey := ⟨⟨"", "v1", "ConfigMap"⟩, none, "settings"⟩

/-- A store in which `ready` has its status. -/
def withReady : Memory :=
  run {} [.call (.create ready), .call (.updateStatus ready)]

theorem status_written_ready :
    (updateStatus ready withReady).1 = .ok (restatedObject (newObject ready "1") ready "3") ∧
    ∃ w, (updateStatus ready withReady).2.stored readyKey = some w ∧ w.status? = some (.string "ready") := by
  have hwritten : (updateStatus ready withReady).1 =
      .ok (restatedObject (newObject ready "1") ready "3") := rfl
  obtain ⟨k, old, hk, hold, hw, -, hstatus⟩ := (status_written withReady ready _).2.2 hwritten
  cases hk
  have hfields : old.HasFields := by
    cases hold
    exact ⟨_, rfl⟩
  exact ⟨hwritten, _, hw, hstatus.2 (.inl hfields)⟩

/-- An update whose payload is `null` loses the status, and a status write to what it leaves stores none. -/
theorem status_lost :
    let bare : DynamicObject := { ready with data := .null }
    withReady.Reachable ∧
    (∃ old w, withReady.stored readyKey = some old ∧ (update bare withReady).1 = .ok w ∧
      old.status? = some (.string "ready") ∧ w.status? = none) ∧
    ∃ w, (updateStatus ready (update bare withReady).2).1 = .ok w ∧
      ready.status? = some (.string "ready") ∧ w.status? = none :=
  ⟨⟨_, rfl⟩, ⟨_, _, rfl, rfl, rfl, rfl⟩, ⟨_, rfl, rfl, rfl⟩⟩

end Memory

end Reconciliation
