import Reconciliation.Proofs.Resource.Metadata
import Reconciliation.Resource.Key
/-!
# Turning objects into dynamic ones

Written as one value, an object has its metadata in one field, and reading the value takes them out again.
The payload is what remains, so it is the same whatever the metadata are
(`ManagedObject.toDynamic_withMetadata`).
-/

namespace Reconciliation

namespace DynamicObject

open Decoder

theorem decode_object (t : Table Json) :
    decode (.value (.object t)) = do
      distinct ["metadata"] (written t)
      let m ← defaulted (written t) "metadata" ObjectMeta.decode {}
      return ⟨(TypeMeta.take none none (t.erase "metadata")).1, m,
        .object (Table.ofList (TypeMeta.take none none (t.erase "metadata")).2)⟩ := by
  have hfields : fields "an object" (.value (.object t)) = .ok (written t) := rfl
  have hpayload : ((written t).filter (·.1 != "metadata")).mapM (fun f => do return (f.1, ← any f.2)) =
      .ok (t.erase "metadata") := by
    rw [filter_written t (· != "metadata"), ← Table.erase_eq_filter]
    induction t.erase "metadata" with
    | nil => rfl
    | cons f rest ih =>
      have hfirst : any (.value f.2) = .ok f.2 := rfl
      rw [written] at ih ⊢
      rw [List.map_cons, List.mapM_cons, ih, hfirst]
      rfl
  simp only [decode, hfields, hpayload, ok_bind]

/-- Metadata that are put where there are none are what is read. -/
theorem decode_insert {t : Table Json} (h : t.find? "metadata" = none) (j : Json) :
    decode (.value (.object (t.insert "metadata" j))) = do
      let m ← ObjectMeta.decode (.value j)
      return ⟨(TypeMeta.take none none (t.erase "metadata")).1, m,
        .object (Table.ofList (TypeMeta.take none none (t.erase "metadata")).2)⟩ := by
  have hdistinct : distinct ["metadata"] (written (t.insert "metadata" j)) = .ok () := by
    have hone : (written (t.insert "metadata" j)).filter (·.1 == "metadata") = [("metadata", .value j)] := by
      rw [filter_written _ (· == "metadata"), Table.filter_key_insert j h]
      rfl
    simp [distinct, Json.Written.repeats, hone]
  have hmetadata : defaulted (written (t.insert "metadata" j)) "metadata" ObjectMeta.decode {} =
      ObjectMeta.decode (.value j) := by
    simp [defaulted, field?_written]
  rw [decode_object, hdistinct, hmetadata, Table.erase_insert_self]
  rfl

/-- What is read beside the metadata does not hang on the metadata that were put there. -/
theorem decode_insertNew {t : Table Json} {m : ObjectMeta} {d : DynamicObject}
    (h : decode (.value (.object (t.insertNew "metadata" m.toJson))) = .ok d) (m' : ObjectMeta) :
    ∃ n, decode (.value (.object (t.insertNew "metadata" m'.toJson))) = .ok { d with metadata := n } := by
  cases hf : t.find? "metadata" with
  | some old =>
    have hsame : ∀ j, t.insertNew "metadata" j = t := fun j => by simp [Table.insertNew, Table.contains, hf]
    rw [hsame] at h ⊢
    exact ⟨d.metadata, h⟩
  | none =>
    have hnew : ∀ j, t.insertNew "metadata" j = t.insert "metadata" j := fun j => by
      simp [Table.insertNew, Table.contains, hf]
    rw [hnew, decode_insert hf, bind_eq_ok] at h
    obtain ⟨n, -, hd⟩ := h
    obtain ⟨n', hn'⟩ := ObjectMeta.reads m'
    cases hd
    exact ⟨n', by rw [hnew, decode_insert hf, hn']; rfl⟩

theorem decode_insertNew_error {t : Table Json} {m : ObjectMeta} {e : DecodeError}
    (h : decode (.value (.object (t.insertNew "metadata" m.toJson))) = .error e) (m' : ObjectMeta) :
    decode (.value (.object (t.insertNew "metadata" m'.toJson))) = .error e := by
  cases hf : t.find? "metadata" with
  | some old =>
    have hsame : ∀ j, t.insertNew "metadata" j = t := fun j => by simp [Table.insertNew, Table.contains, hf]
    rw [hsame] at h ⊢
    exact h
  | none =>
    have hnew : t.insertNew "metadata" m.toJson = t.insert "metadata" m.toJson := by
      simp [Table.insertNew, Table.contains, hf]
    obtain ⟨n, hn⟩ := ObjectMeta.reads m
    rw [hnew, decode_insert hf, hn] at h
    cases h

theorem data_of_decode_object {t : Table Json} {d : DynamicObject}
    (h : decode (.value (.object t)) = .ok d) : ∃ fs, d.data = .object fs ∧ Table.Ordered fs := by
  rw [decode_object, bind_eq_ok] at h
  obtain ⟨_, _, h⟩ := h
  obtain ⟨_, _, h⟩ := bind_eq_ok.1 h
  cases h
  exact ⟨_, rfl, Table.ordered_ofList _⟩

end DynamicObject

namespace ManagedObject

@[simp] theorem types_withMetadata (o : ManagedObject) (m : ObjectMeta) :
    (o.withMetadata m).types = o.types := by
  cases o <;> rfl

@[simp] theorem metadata_withMetadata (o : ManagedObject) (m : ObjectMeta) :
    (o.withMetadata m).metadata = m := by
  cases o <;> rfl

@[simp] theorem withMetadata_withMetadata (o : ManagedObject) (m m' : ObjectMeta) :
    (o.withMetadata m).withMetadata m' = o.withMetadata m' := by
  cases o <;> rfl

@[simp] theorem withMetadata_metadata (o : ManagedObject) : o.withMetadata o.metadata = o := by
  cases o <;> rfl

/-- An object can be written with all metadata or with none, and all but them is written alike. -/
theorem toJson_withMetadata (o : ManagedObject) :
    (∃ detail, ∀ m, (o.withMetadata m).toJson = .error detail) ∨
    ∃ t : Table Json, ∀ m, (o.withMetadata m).toJson = .ok (.object (t.insertNew "metadata" m.toJson)) := by
  cases o with
  | builtin o =>
    refine .inr ⟨DynamicObject.withHeader o.body o.types.fields, fun m => ?_⟩
    rfl
  | tracked o =>
    obtain ⟨types, metadata, contents, status⟩ := o
    cases contents with
    | error detail => exact .inl ⟨detail, fun m => rfl⟩
    | ok c => exact .inr ⟨DynamicObject.withHeader (c.withStatus status) types.fields, fun m => rfl⟩
  | dynamic o =>
    obtain ⟨types, metadata, data⟩ := o
    cases data with
    | object fs =>
      refine .inr ⟨DynamicObject.withHeader fs ((types.map TypeMeta.fields).getD []), fun m => ?_⟩
      cases types <;> rfl
    | null =>
      refine .inr ⟨DynamicObject.withHeader [] ((types.map TypeMeta.fields).getD []), fun m => ?_⟩
      cases types <;> rfl
    | bool | int | float | string | array =>
      left
      simp [withMetadata, toJson, DynamicObject.toJson]

theorem toDynamic_eq_ok {o : ManagedObject} {d : DynamicObject} (h : o.toDynamic = .ok d) :
    ∃ (t : TypeMeta) (j : Json) (d' : DynamicObject), o.types = some t ∧ o.toJson = .ok j ∧
      DynamicObject.ofJson j = .ok d' ∧ d = { d' with types := some t, metadata := o.metadata } := by
  unfold toDynamic at h
  split at h
  · cases h
  · rename_i t ht
    split at h
    · cases h
    · rename_i j hj
      split at h
      · cases h
      · rename_i d' hd'
        cases h
        exact ⟨t, j, d', ht, hj, hd', rfl⟩

/-- The payload of a dynamic object that was made of an object is an object, with its fields in their order. -/
theorem data_of_toDynamic {o : ManagedObject} {d : DynamicObject} (h : o.toDynamic = .ok d) :
    ∃ fs, d.data = .object fs ∧ Table.Ordered fs := by
  obtain ⟨t, j, d', ht, hj, hd', rfl⟩ := toDynamic_eq_ok h
  rcases toJson_withMetadata o with ⟨detail, hnone⟩ | ⟨fs, hfs⟩
  · rw [← withMetadata_metadata o, hnone] at hj
    cases hj
  · rw [← withMetadata_metadata o, hfs] at hj
    cases hj
    have hdata : ∃ fs, d'.data = .object fs ∧ Table.Ordered fs := DynamicObject.data_of_decode_object hd'
    exact hdata

/-- A dynamic object has the types and the metadata of the object that it was made of, and an object for
payload. -/
theorem toDynamic_ok {o : ManagedObject} {d : DynamicObject} (h : o.toDynamic = .ok d) :
    d.types = o.types ∧ d.metadata = o.metadata ∧ ∃ fs, d.data = .object fs := by
  obtain ⟨fs, hfs, -⟩ := data_of_toDynamic h
  obtain ⟨t, -, d', ht, -, -, rfl⟩ := toDynamic_eq_ok h
  exact ⟨ht.symm, rfl, fs, hfs⟩

theorem ofDynamic_toDynamic {o : ManagedObject} {d : DynamicObject} (h : o.toDynamic = .ok d) :
    ObjectKey.ofDynamic d = ObjectKey.of o := by
  obtain ⟨htypes, hmetadata, -⟩ := toDynamic_ok h
  rw [ObjectKey.ofDynamic, ObjectKey.of, htypes, hmetadata]

/-- With other metadata, an object is turned into one with the same payload. -/
theorem toDynamic_withMetadata {o : ManagedObject} {d : DynamicObject} (h : o.toDynamic = .ok d)
    (m : ObjectMeta) : (o.withMetadata m).toDynamic = .ok { d with metadata := m } := by
  obtain ⟨t, j, d', ht, hj, hd', rfl⟩ := toDynamic_eq_ok h
  rcases toJson_withMetadata o with ⟨detail, hnone⟩ | ⟨fs, hfs⟩
  · rw [← withMetadata_metadata o, hnone] at hj
    cases hj
  · rw [← withMetadata_metadata o, hfs] at hj
    cases hj
    obtain ⟨n, hn⟩ := DynamicObject.decode_insertNew hd' m
    simp only [toDynamic, types_withMetadata, ht, hfs, DynamicObject.ofJson, hn, metadata_withMetadata]

/-- An object that cannot be turned into a dynamic one cannot be with other metadata either. -/
theorem toDynamic_withMetadata_error {o : ManagedObject} {e : ResourceError} (h : o.toDynamic = .error e)
    (m : ObjectMeta) : (o.withMetadata m).toDynamic = .error e := by
  rw [← withMetadata_metadata o] at h
  unfold toDynamic at h ⊢
  simp only [types_withMetadata] at h ⊢
  cases ht : o.types with
  | none =>
    rw [ht] at h
    exact h
  | some t =>
    simp only [ht] at h ⊢
    rcases toJson_withMetadata o with ⟨detail, hnone⟩ | ⟨fs, hfs⟩
    · simp only [hnone] at h ⊢
      exact h
    · simp only [hfs, DynamicObject.ofJson] at h ⊢
      cases hd : DynamicObject.decode (.value (.object (fs.insertNew "metadata" o.metadata.toJson))) with
      | ok d => simp [hd] at h
      | error e' =>
        rw [DynamicObject.decode_insertNew_error hd m]
        simpa [hd] using h

end ManagedObject

end Reconciliation
