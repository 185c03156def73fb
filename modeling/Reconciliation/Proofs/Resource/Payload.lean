import Reconciliation.Proofs.Resource.Dynamic
/-!
# Payloads beside types and metadata

An object is written with its types and its metadata among the fields of its payload. If the payload has no fields of
their names, then reading takes out just what was put there: the types are the same again, and what remains is the
payload, in the order of its names (`ManagedObject.toDynamic_of_toJson`).
-/

namespace Reconciliation

namespace TypeMeta

/-- The types are found where an API version and a kind are each given once, counting those that were found before, and
all other fields are left. -/
theorem take_eq {t : TypeMeta} {version kind : Option String} {fs : Table Json}
    (hversion : version.toList.map Json.string ++ (fs.filter (·.1 == "apiVersion")).map Prod.snd =
      [.string t.apiVersion])
    (hkind : kind.toList.map Json.string ++ (fs.filter (·.1 == "kind")).map Prod.snd = [.string t.kind]) :
    take version kind fs = (some t, fs.without ["apiVersion", "kind"]) := by
  induction fs generalizing version kind with
  | nil =>
    cases version with
    | none => cases hversion
    | some version =>
      cases kind with
      | none => cases hkind
      | some kind =>
        cases hversion
        cases hkind
        rfl
  | cons f rest ih =>
    obtain ⟨name, j⟩ := f
    by_cases hname : name = "apiVersion"
    · subst hname
      cases version with
      | some version => simp at hversion
      | none =>
        obtain ⟨rfl, hnone⟩ : j = .string t.apiVersion ∧ (rest.filter (·.1 == "apiVersion")).map Prod.snd = [] := by
          simpa using hversion
        have hstep : take none kind (("apiVersion", .string t.apiVersion) :: rest) =
            take (some t.apiVersion) kind rest := rfl
        rw [hstep, ih]
        · simp [Table.without]
        · simp [hnone]
        · simpa using hkind
    · by_cases hname' : name = "kind"
      · subst hname'
        cases kind with
        | some kind => simp at hkind
        | none =>
          obtain ⟨rfl, hnone⟩ : j = .string t.kind ∧ (rest.filter (·.1 == "kind")).map Prod.snd = [] := by
            simpa using hkind
          have hstep : take version none (("kind", .string t.kind) :: rest) = take version (some t.kind) rest := by
            rw [take.eq_def]
            simp
          rw [hstep, ih]
          · simp [Table.without]
          · simpa using hversion
          · simp [hnone]
      · rw [take.eq_def]
        simp only [if_neg hname, if_neg hname']
        rw [ih]
        · simp [Table.without, hname, hname']
        · simpa [hname] using hversion
        · simpa [hname'] using hkind

end TypeMeta

/-! ### A payload without reserved names -/

namespace DynamicObject

variable {fs : Table Json} (hfree : ∀ name ∈ reservedFields, fs.find? name = none)

include hfree

theorem withHeader_eq (t : TypeMeta) (m : ObjectMeta) :
    withHeader fs (header (some t) m) =
      ((fs.insert "apiVersion" (.string t.apiVersion)).insert "kind" (.string t.kind)).insert "metadata" m.toJson := by
  have hversion := hfree "apiVersion" (by decide)
  have hkind := hfree "kind" (by decide)
  have hmetadata := hfree "metadata" (by decide)
  simp [withHeader, header, TypeMeta.fields, Table.insertNew, Table.contains, Table.find?_insert, hversion, hkind,
    hmetadata]

theorem without_withHeader (t : TypeMeta) (m : ObjectMeta) :
    (withHeader fs (header (some t) m)).without reservedFields = fs := by
  rw [withHeader_eq hfree, Table.without_insert (by decide), Table.without_insert (by decide),
    Table.without_insert (by decide), Table.without_of_free hfree]

theorem take_types (t : TypeMeta) :
    TypeMeta.take none none ((fs.insert "apiVersion" (.string t.apiVersion)).insert "kind" (.string t.kind)) =
      (some t, fs) := by
  have hnew : (fs.insert "apiVersion" (.string t.apiVersion)).find? "kind" = none := by
    rw [Table.find?_insert_of_ne _ _ (by decide), hfree "kind" (by decide)]
  rw [TypeMeta.take_eq (t := t)]
  · rw [Table.without_insert (by decide), Table.without_insert (by decide), Table.without_of_free]
    intro name hname
    exact hfree name (List.mem_append_left ["metadata"] hname)
  · rw [Table.filter_key_insert_of_ne _ (by decide), Table.filter_key_insert _ (hfree "apiVersion" (by decide))]
    rfl
  · rw [Table.filter_key_insert _ hnew]
    rfl

theorem ofJson_withHeader (t : TypeMeta) (m : ObjectMeta) :
    ∃ n, ofJson (.object (withHeader fs (header (some t) m))) = .ok ⟨some t, n, .object (Table.ofList fs)⟩ := by
  obtain ⟨n, hn⟩ := ObjectMeta.reads m
  have hnew : ((fs.insert "apiVersion" (.string t.apiVersion)).insert "kind" (.string t.kind)).find? "metadata" =
      none := by
    rw [Table.find?_insert_of_ne _ _ (by decide), Table.find?_insert_of_ne _ _ (by decide),
      hfree "metadata" (by decide)]
  refine ⟨n, ?_⟩
  rw [ofJson, withHeader_eq hfree, decode_insert hnew, hn, ok_bind, Table.erase_of_find?_eq_none hnew,
    take_types hfree]
  rfl

end DynamicObject

namespace ManagedObject

/-- An object that is written with its header beside a payload is stored with that payload. -/
theorem toDynamic_of_toJson {o : ManagedObject} {t : TypeMeta} {fs : Table Json} (ht : o.types = some t)
    (hfree : ∀ name ∈ reservedFields, fs.find? name = none) (hj : o.toJson = .ok (typedValue t o.metadata fs)) :
    o.toDynamic = .ok ⟨some t, o.metadata, .object (Table.ofList fs)⟩ := by
  obtain ⟨n, hn⟩ := DynamicObject.ofJson_withHeader hfree t o.metadata
  simp only [toDynamic, ht, hj, typedValue, hn]

end ManagedObject

end Reconciliation
