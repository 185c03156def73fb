import Reconciliation.Proofs.Resource.Payload
import Reconciliation.Proofs.Status
/-!
# Stored objects that track their status

An object that tracks its status can be stored exactly if its contents can be written, whatever its status is
(`toDynamic_tracked`, `toDynamic_unwritable`). The stored form has the status in one of its fields, and whoever reads
it finds there what the reading of the status settles on (`recorded?_toDynamic`).
-/

namespace Reconciliation

namespace Contents

variable (c : Contents) (status : Option Status)

theorem ordered_withStatus : (c.withStatus status).Ordered := by
  cases status with
  | none => exact c.ordered
  | some s => exact Table.ordered_insert c.ordered _ _

theorem free_withStatus : ∀ name ∈ reservedFields, (c.withStatus status).find? name = none := by
  intro name hname
  have hfree : c.fields.find? name = none := c.free name (List.mem_cons_of_mem _ hname)
  cases status with
  | none => exact hfree
  | some s =>
    have hne : name ≠ "status" := by
      rintro rfl
      exact absurd hname (by decide)
    rw [withStatus, Table.find?_insert_of_ne _ _ hne, hfree]

theorem find?_withStatus : (c.withStatus status).find? "status" = status.map Status.field := by
  cases status with
  | none => exact c.free "status" List.mem_cons_self
  | some s => exact Table.find?_insert_self _ _ _

end Contents

/-- The form in which an object with written contents is stored. -/
def TrackedObject.written (o : TrackedObject) (c : Contents) : DynamicObject :=
  ⟨some o.types, o.metadata, .object (c.withStatus o.status)⟩

theorem TrackedObject.status?_written (o : TrackedObject) (c : Contents) :
    (o.written c).status? = o.status.map Status.field :=
  c.find?_withStatus o.status

namespace Status

theorem decodeStatus_field (s : Status) : Registry.decodeStatus (.value s.field) = .ok s.settled := by
  have hfields : Decoder.record "the status of a registry" ["reconcileStatus"] (.value s.field) =
      .ok [("reconcileStatus", .value s.toJson)] := rfl
  have hfield : Decoder.defaulted [("reconcileStatus", .value s.toJson)] "reconcileStatus"
      Registry.decodeReconcileStatus .default = Registry.decodeReconcileStatus (.value s.toJson) := rfl
  rw [Registry.decodeStatus, hfields, ok_bind, hfield, Registry.decodeReconcileStatus, ofWritten?_toJson]

/-- The status that a reader finds in the status field of a stored object. It is the default before the first
record. -/
def recorded? (field : Option Json) : Option Status :=
  (Decoder.ofWritten Registry.decodeStatus field).toOption.map (·.getD .default)

@[simp] theorem recorded?_none : recorded? none = some .default := rfl

@[simp] theorem recorded?_field (s : Status) : recorded? (some s.field) = some s.settled := by
  have hwritten : Decoder.ofWritten Registry.decodeStatus (some s.field) =
      some <$> Registry.decodeStatus (.value s.field) := rfl
  rw [recorded?, hwritten, decodeStatus_field]
  rfl

theorem settled_of_decodeStatus {w : Json.Written} {s : Status} (h : Registry.decodeStatus w = .ok s) :
    s.settled = s := by
  obtain ⟨fs, -, h⟩ := bind_eq_ok.1 h
  unfold Decoder.defaulted at h
  split at h
  · cases h
    rfl
  · unfold Registry.decodeReconcileStatus at h
    split at h
    · cases h
      exact settled_of_ofWritten? ‹_›
    · cases h

/-- What a reader finds is settled. -/
theorem settled_of_recorded? {field : Option Json} {s : Status} (h : recorded? field = some s) : s.settled = s := by
  obtain ⟨found, hfound, rfl⟩ := Option.map_eq_some_iff.1 h
  unfold Decoder.ofWritten at hfound
  split at hfound
  · cases hfound
    rfl
  · cases hfound
    rfl
  · rename_i j hj
    cases hd : Registry.decodeStatus (.value j) with
    | error e =>
      rw [hd] at hfound
      cases hfound
    | ok s =>
      rw [hd] at hfound
      cases hfound
      exact settled_of_decodeStatus hd

end Status

namespace ManagedObject

theorem eq_tracked_of_tracksStatus {o : ManagedObject} (ho : o.tracksStatus = true) : ∃ t, o = tracked t := by
  cases o with
  | dynamic | builtin => cases ho
  | tracked t => exact ⟨t, rfl⟩

theorem exists_status? {o : ManagedObject} (ho : o.tracksStatus = true) : ∃ s, o.status? = some s := by
  obtain ⟨t, rfl⟩ := eq_tracked_of_tracksStatus ho
  exact ⟨_, rfl⟩

theorem tracksStatus_of_status?_none {o : ManagedObject} (h : o.status? = none) : o.tracksStatus = false := by
  cases o with
  | dynamic | builtin => rfl
  | tracked => cases h

theorem tracksStatus_of_status? {o : ManagedObject} {s : Status} (h : o.status? = some s) : o.tracksStatus = true := by
  cases o with
  | dynamic | builtin => cases h
  | tracked => rfl

@[simp] theorem metadata_withStatus (o : ManagedObject) (s : Status) : (o.withStatus s).metadata = o.metadata := by
  cases o <;> rfl

@[simp] theorem key_withStatus (o : ManagedObject) (s : Status) :
    ObjectKey.of (o.withStatus s) = ObjectKey.of o := by
  cases o <;> rfl

theorem withStatus_withMetadata (o : ManagedObject) (m : ObjectMeta) (s : Status) :
    (o.withMetadata m).withStatus s = (o.withStatus s).withMetadata m := by
  cases o <;> rfl

variable {t : TrackedObject} {c : Contents} {d : DynamicObject}

theorem toDynamic_tracked (h : t.contents = .ok c) : (tracked t).toDynamic = .ok (t.written c) := by
  have hvalue : (tracked t).toJson = .ok (typedValue t.types t.metadata (c.withStatus t.status)) := by
    rw [toJson, h]
    rfl
  rw [toDynamic_of_toJson rfl (c.free_withStatus t.status) hvalue, Table.ofList_of_ordered (c.ordered_withStatus t.status)]
  rfl

theorem toDynamic_unwritable {detail : String} (h : t.contents = .error detail) :
    (tracked t).toDynamic = .error (.unwritable detail) := by
  have hvalue : (tracked t).toJson = .error detail := by
    rw [toJson, h]
    rfl
  simp only [toDynamic, types, hvalue]

theorem toDynamic_tracked_iff : (tracked t).toDynamic = .ok d ↔ ∃ c, t.contents = .ok c ∧ d = t.written c := by
  cases h : t.contents with
  | error detail => simp [toDynamic_unwritable h]
  | ok c => simp [toDynamic_tracked h, eq_comm]

/-! ### Objects that can be stored -/

/-- The object has a form in which it can be stored. -/
def Writable (o : ManagedObject) : Prop :=
  ∃ d, o.toDynamic = .ok d

/-- Whether an object can be stored does not hang on the status that it tracks. -/
@[simp] theorem writable_withStatus (o : ManagedObject) (s : Status) : (o.withStatus s).Writable ↔ o.Writable := by
  cases o with
  | dynamic | builtin => rfl
  | tracked t => simp only [Writable, withStatus, toDynamic_tracked_iff, exists_comm, exists_and_left, exists_eq]

theorem writable_withMetadata (o : ManagedObject) (m : ObjectMeta) : (o.withMetadata m).Writable ↔ o.Writable := by
  refine ⟨fun ⟨d, hd⟩ => ?_, fun ⟨d, hd⟩ => ⟨_, toDynamic_withMetadata hd m⟩⟩
  rw [← withMetadata_metadata o, ← withMetadata_withMetadata o m]
  exact ⟨_, toDynamic_withMetadata hd o.metadata⟩

/-! ### The status of what is stored -/

theorem status?_toDynamic_withStatus {o : ManagedObject} {s : Status} (ho : o.tracksStatus = true)
    (h : (o.withStatus s).toDynamic = .ok d) : d.status? = some s.field := by
  obtain ⟨t, rfl⟩ := eq_tracked_of_tracksStatus ho
  obtain ⟨c, -, rfl⟩ := toDynamic_tracked_iff.1 h
  exact TrackedObject.status?_written _ c

/-- What a reader of a stored object finds is what the reading of the status that the object tracked settles on. -/
theorem recorded?_toDynamic {o : ManagedObject} (ho : o.tracksStatus = true) (h : o.toDynamic = .ok d) :
    Status.recorded? d.status? = o.status?.map Status.settled := by
  obtain ⟨t, rfl⟩ := eq_tracked_of_tracksStatus ho
  obtain ⟨c, -, rfl⟩ := toDynamic_tracked_iff.1 h
  rw [t.status?_written c]
  cases hs : t.status with
  | none => simp [status?, hs, Status.settled, Status.default]
  | some s => simp [status?, hs]

end ManagedObject

end Reconciliation
