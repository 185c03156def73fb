import Reconciliation.Proofs.Json.Decode
import Reconciliation.Proofs.Time.Rfc3339
import Reconciliation.Resource.Metadata
/-!
# Reading back metadata

An owner reference is read back as it was. All metadata can be read back from what is written for them
(`ObjectMeta.reads`), but times lose the places that are not written.
-/

namespace Reconciliation

open Decoder

/-! ### Written texts and truth values -/

@[simp] theorem Decoder.ofWritten_text (s : Option String) :
    ofWritten text (s.map .string) = .ok s := by
  cases s <;> rfl

@[simp] theorem Decoder.ofWritten_some_text (s : String) :
    ofWritten text (some (.string s)) = .ok (some s) := rfl

@[simp] theorem Decoder.ofWritten_bool (b : Option Bool) :
    ofWritten bool (b.map .bool) = .ok b := by
  cases b <;> rfl

namespace Decoder

/-- Whatever is written in this way can be read. -/
def Reads {α β : Type} (item : Decoder α) (write : β → Json) : Prop :=
  ∀ b, ∃ a, item (.value (write b)) = .ok a

section Reads

variable {α β : Type} {item : Decoder α} {write : β → Json}

theorem reads_text : Reads text .string := fun s => ⟨s, rfl⟩

theorem reads_any : Reads any id := fun j => ⟨j, rfl⟩

theorem reads_time : Reads time Instant.toJson := by
  intro t
  obtain ⟨u, hu⟩ := Instant.exists_ofRfc3339? .seconds t
  refine ⟨u, ?_⟩
  simp only [Instant.toJson, time, hu]

theorem reads_int64 : Reads int64 fun n : Int64 => .int n.toInt := by
  intro n
  have hrange : -(Nat.pow 2 (64 - 1) : Int) ≤ n.toInt ∧ n.toInt < Nat.pow 2 (64 - 1) :=
    ⟨n.le_toInt, n.toInt_lt⟩
  refine ⟨Int64.ofInt n.toInt, ?_⟩
  rw [int64, signed, if_pos hrange, map_ok]

theorem reads_list (h : Reads item write) : Reads (Decoder.list item) fun bs : List β => .array (bs.map write) := by
  intro bs
  have hitems : ∃ as, ((bs.map write).map Json.Written.value).mapM item = .ok as := by
    induction bs with
    | nil => exact ⟨[], rfl⟩
    | cons b bs ih =>
      obtain ⟨a, ha⟩ := h b
      obtain ⟨as, has⟩ := ih
      refine ⟨a :: as, ?_⟩
      rw [List.map_cons, List.map_cons, List.mapM_cons, ha, has]
      rfl
  exact hitems

theorem reads_table : Reads (table text) Json.ofTexts := by
  intro t
  have hfields : (t.map fun e => (e.1, Json.Written.value (.string e.2))).mapM
      (fun f => do return (f.1, ← text f.2)) = .ok t := by
    induction t with
    | nil => rfl
    | cons e rest ih =>
      have hfirst : text (.value (.string e.2)) = .ok e.2 := rfl
      rw [List.map_cons, List.mapM_cons, ih, hfirst]
      rfl
  refine ⟨Table.ofList t, ?_⟩
  simp only [table, Json.ofTexts, Json.Written.fields?, List.map_map, Function.comp_def, hfields, map_ok]

/-- What is written in a field that may be unset can be read. -/
theorem exists_ofWritten (h : Reads item write) (b : Option β) :
    ∃ a, ofWritten item (b.map write) = .ok a := by
  cases b with
  | none => exact ⟨none, rfl⟩
  | some b =>
    obtain ⟨a, ha⟩ := h b
    by_cases hnull : write b = .null
    · rw [Option.map_some, hnull]
      exact ⟨none, rfl⟩
    · rw [Option.map_some, ofWritten, ha, map_ok]
      · exact ⟨some a, rfl⟩
      · exact hnull

end Reads

end Decoder

namespace OwnerReference

theorem decode_toJson (r : OwnerReference) : decode (.value r.toJson) = .ok r := by
  simp [decode, toJson, fields_ofFields, withDefault, optional_ofFields, List.lookup_cons, Except.map]

theorem reads : Reads decode toJson := fun r => ⟨r, decode_toJson r⟩

end OwnerReference

theorem ManagedFields.reads : Reads ManagedFields.decode ManagedFields.toJson := by
  intro m
  obtain ⟨fieldsV1, hfields⟩ := exists_ofWritten reads_any m.fieldsV1
  obtain ⟨time, htime⟩ := exists_ofWritten reads_time m.time
  rw [Option.map_id_fun, id_eq] at hfields
  simp [decode, toJson, fields_ofFields, optional_ofFields, List.lookup_cons, hfields, htime]

namespace ObjectMeta

theorem reads : Reads ObjectMeta.decode ObjectMeta.toJson := by
  intro m
  obtain ⟨annotations, hannotations⟩ := exists_ofWritten reads_table m.annotations
  obtain ⟨created, hcreated⟩ := exists_ofWritten reads_time m.creationTimestamp
  obtain ⟨grace, hgrace⟩ := exists_ofWritten reads_int64 m.deletionGracePeriodSeconds
  obtain ⟨deleted, hdeleted⟩ := exists_ofWritten reads_time m.deletionTimestamp
  obtain ⟨finalizers, hfinalizers⟩ := exists_ofWritten (reads_list reads_text) m.finalizers
  obtain ⟨generation, hgeneration⟩ := exists_ofWritten reads_int64 m.generation
  obtain ⟨labels, hlabels⟩ := exists_ofWritten reads_table m.labels
  obtain ⟨managed, hmanaged⟩ := exists_ofWritten (reads_list ManagedFields.reads) m.managedFields
  obtain ⟨owners, howners⟩ := exists_ofWritten (reads_list OwnerReference.reads) m.ownerReferences
  simp [decode, toJson, fields_ofFields, optional_ofFields, List.lookup_cons, hannotations, hcreated, hgrace,
    hdeleted, hfinalizers, hgeneration, hlabels, hmanaged, howners]

/-! ### Another namespace -/

theorem filter_of_ne {ns : String} (h : ns ≠ "") : (some ns).filter (· != "") = some ns := by
  simpa using h

theorem inNamespace_of_ne (m : ObjectMeta) {ns : String} (h : ns ≠ "") :
    m.inNamespace (some ns) = { m with nameSpace := some ns } := by
  rw [inNamespace, filter_of_ne h]

theorem inNamespace_empty (m : ObjectMeta) : m.inNamespace (some "") = m := rfl

theorem inNamespace_eq (m : ObjectMeta) (target : Option String) :
    m.inNamespace target = { m with nameSpace := (m.inNamespace target).nameSpace } := by
  unfold inNamespace
  split <;> rfl

@[simp] theorem inNamespace_ownerReferences (m : ObjectMeta) (target : Option String) :
    (m.inNamespace target).ownerReferences = m.ownerReferences := by
  unfold inNamespace
  split <;> rfl

@[simp] theorem inNamespace_with_ownerReferences (m : ObjectMeta) (references : Option (List OwnerReference))
    (target : Option String) :
    inNamespace { m with ownerReferences := references } target =
      { m.inNamespace target with ownerReferences := references } := by
  unfold inNamespace
  cases target.filter (· != "") <;> rfl

/-- An object that was moved to a namespace stays there. -/
theorem inNamespace_again {m m' : ObjectMeta} {target : Option String}
    (h : m'.nameSpace = (m.inNamespace target).nameSpace) : m'.inNamespace target = m' := by
  unfold inNamespace at h ⊢
  cases hns : target.filter (· != "") with
  | none => rfl
  | some ns =>
    rw [hns] at h
    show { m' with nameSpace := some ns } = m'
    rw [← show m'.nameSpace = some ns from h]

end ObjectMeta

end Reconciliation
