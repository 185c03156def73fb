import Reconciliation.Proofs.Resource.Tracked
import Reconciliation.Store
/-!
# What conversion keeps

To be stored, an object is written as one value, with its types and metadata among its fields, and that value is read
as a dynamic object, which may find other types and other metadata in it. The dynamic object is then given those of the
object itself. So both have one identity, whatever the payload holds (`Converts`). No field gets lost where the payload
does not collide with the header: it never does for a typed object, and for a dynamic one only if it uses a reserved
name (`toDynamic_lossless`).

The fields of an object are a table. Where one is given, it is in the order of its names, like every table that was made
by the operations of tables.
-/

namespace Reconciliation

namespace ManagedObject

variable {o : ManagedObject} {d : DynamicObject}

/-- A dynamic object is identified like the object that it was made of, by the reconciler and by the store that it is
handed to with any version, and its payload is an object. -/
structure Converts (o : ManagedObject) (d : DynamicObject) : Prop where
  types : d.types = o.types
  metadata : d.metadata = o.metadata
  payload : ∃ fs, d.data = .object fs ∧ Table.Ordered fs
  key : ObjectKey.ofDynamic d = ObjectKey.of o
  filed : ∀ version, storeKey { d with metadata := { d.metadata with resourceVersion := version } } =
    (ObjectKey.of o).mapError fun e => .invalid e.message

theorem converts_toDynamic (h : o.toDynamic = .ok d) : Converts o d := by
  obtain ⟨htypes, hmetadata, -⟩ := toDynamic_ok h
  have hkey : ObjectKey.ofDynamic d = ObjectKey.of o := ofDynamic_toDynamic h
  refine ⟨htypes, hmetadata, data_of_toDynamic h, hkey, fun version => ?_⟩
  -- The version is no part of the identity.
  have hversion : ObjectKey.ofDynamic { d with metadata := { d.metadata with resourceVersion := version } } =
      ObjectKey.of o := hkey
  rw [storeKey, hversion]
  cases ObjectKey.of o <;> rfl

/-- The objects whose kind is fixed: those of built-in kinds and those of custom kinds. -/
def IsTyped : ManagedObject → Prop
  | dynamic _ => False
  | builtin _ | tracked _ => True

/-- A typed object is written with its header beside a payload without reserved names. -/
theorem toJson_typed (h : o.IsTyped) {j : Json} (hj : o.toJson = .ok j) : ∃ t fs, o.types = some t ∧
    (∀ name ∈ reservedFields, Table.find? fs name = none) ∧ j = typedValue t o.metadata fs := by
  cases o with
  | dynamic => cases h
  | builtin o =>
    cases hj
    exact ⟨o.types, o.body, rfl, o.body_free, rfl⟩
  | tracked o =>
    obtain ⟨types, metadata, contents, status⟩ := o
    cases contents with
    | error detail => cases hj
    | ok c =>
      cases hj
      exact ⟨types, c.withStatus status, rfl, c.free_withStatus status, rfl⟩

theorem toDynamic_typed (h : o.IsTyped) {j : Json} (hj : o.toJson = .ok j) : ∃ (v : Table Json) (d : DynamicObject),
    j = .object v ∧ o.toDynamic = .ok d ∧ d.data = .object (Table.ofList (v.without reservedFields)) := by
  obtain ⟨t, fs, ht, hfree, rfl⟩ := toJson_typed h hj
  refine ⟨_, _, rfl, toDynamic_of_toJson ht hfree hj, ?_⟩
  rw [DynamicObject.without_withHeader hfree]

/-- A typed object that cannot be written cannot be stored, for the same reason. -/
theorem toDynamic_typed_error (h : o.IsTyped) {detail : String} (hj : o.toJson = .error detail) :
    o.toDynamic = .error (.unwritable detail) := by
  cases o with
  | dynamic => cases h
  | builtin | tracked => simp only [toDynamic, types, hj]

theorem writable_builtin (b : BuiltinObject) : (builtin b).Writable := by
  obtain ⟨v, d, -, hd, -⟩ := toDynamic_typed (o := builtin b) trivial rfl
  exact ⟨d, hd⟩

theorem writable_registry (r : Registry) : (registry r).Writable :=
  ⟨_, toDynamic_tracked rfl⟩

/-- The typed objects of the kinds that there are. -/
inductive Supported : ManagedObject → Prop
  | tracked (t : TrackedObject) : Supported (tracked t)
  | configMap (m : ObjectMeta) (data : Option (Table String)) (immutable : Option Bool) :
    Supported (builtin (.configMap m data immutable))
  | ofKind {kind : String} {m : ObjectMeta} {b : BuiltinObject} (h : BuiltinObject.ofKind? kind m = some b) :
    Supported (builtin b)

/-- The header of a typed object is put among its other fields without disturbing their order. -/
theorem ordered_typedValue {t : TypeMeta} {m : ObjectMeta} {body v : Table Json}
    (hfree : ∀ name ∈ reservedFields, body.find? name = none) (hbody : body.Ordered)
    (hv : typedValue t m body = .object v) : v.Ordered := by
  cases hv
  rw [DynamicObject.withHeader_eq hfree]
  exact Table.ordered_insert (Table.ordered_insert (Table.ordered_insert hbody _ _) _ _) _ _

theorem ordered_configMapBody (data : Option (Table String)) (immutable : Option Bool) :
    Table.Ordered (BuiltinObject.configMapBody data immutable) := by
  cases data with
  | none =>
    cases immutable with
    | none => exact Table.ordered_nil
    | some b => exact List.pairwise_singleton _ _
  | some t =>
    cases immutable with
    | none => exact List.pairwise_singleton _ _
    | some b => exact List.pairwise_pair.2 (by decide : "data" < "immutable")

theorem ordered_body_ofKind {kind : String} {m : ObjectMeta} {b : BuiltinObject}
    (h : BuiltinObject.ofKind? kind m = some b) : Table.Ordered b.body := by
  rw [BuiltinObject.ofKind?] at h
  split at h
  · cases h
    exact List.pairwise_singleton _ _
  · obtain ⟨k, -, rfl⟩ := Option.map_eq_some_iff.1 h
    exact Table.ordered_nil

theorem ordered_of_toJson {v : Table Json} (h : o.Supported) (hv : o.toJson = .ok (.object v)) : v.Ordered := by
  cases h with
  | tracked t =>
    obtain ⟨types, metadata, contents, status⟩ := t
    cases contents with
    | error detail => cases hv
    | ok c => exact ordered_typedValue (c.free_withStatus status) (c.ordered_withStatus status) (Except.ok.inj hv)
  | configMap m data immutable =>
    exact ordered_typedValue (BuiltinObject.body_free _) (ordered_configMapBody data immutable) (Except.ok.inj hv)
  | ofKind h => exact ordered_typedValue (BuiltinObject.body_free _) (ordered_body_ofKind h) (Except.ok.inj hv)

theorem toDynamic_dynamic {t : TypeMeta} {fs : Table Json} (ht : d.types = some t) (hdata : d.data = .object fs)
    (hfree : ∀ name ∈ reservedFields, fs.find? name = none) :
    (dynamic d).toDynamic = .ok { d with data := .object (Table.ofList fs) } := by
  obtain ⟨types, m, data⟩ := d
  cases ht
  cases hdata
  exact toDynamic_of_toJson rfl hfree rfl

theorem toDynamic_null {t : TypeMeta} (ht : d.types = some t) (hdata : d.data = .null) :
    (dynamic d).toDynamic = .ok { d with data := .object [] } := by
  obtain ⟨types, m, data⟩ := d
  cases ht
  cases hdata
  have hvalue : (dynamic ⟨some t, m, .null⟩).toJson = .ok (typedValue t m []) := rfl
  exact toDynamic_of_toJson rfl (fun _ _ => rfl) hvalue

/-- Whatever an object is converted to has its identity. A typed object is converted if it can be written, as those of
built-in kinds and registries always can, and its payload is the table of its value without the reserved fields. A
dynamic object with types is converted to itself if its payload is an object without reserved fields, and with an empty
payload instead of `null`. A table in the order of its names is the table of its fields, and the values of all kinds are
in that order. -/
theorem toDynamic_lossless :
    (∀ o d, toDynamic o = .ok d → Converts o d) ∧
    (∀ o j, IsTyped o → o.toJson = .ok j → ∃ (v : Table Json) (d : DynamicObject), j = .object v ∧
      o.toDynamic = .ok d ∧ d.data = .object (Table.ofList (v.without reservedFields)) ∧
      (v.Ordered → d.data = .object (v.without reservedFields))) ∧
    (∀ o detail, IsTyped o → o.toJson = .error detail → o.toDynamic = .error (.unwritable detail)) ∧
    (∀ b, (builtin b).Writable) ∧ (∀ r, (registry r).Writable) ∧
    (∀ (o : ManagedObject) (v : Table Json), o.Supported → o.toJson = .ok (.object v) → v.Ordered) ∧
    (∀ d t fs, d.types = some t → d.data = .object fs → (∀ name ∈ reservedFields, Table.find? fs name = none) →
      (dynamic d).toDynamic = .ok { d with data := .object (Table.ofList fs) } ∧
      (Table.Ordered fs → (dynamic d).toDynamic = .ok d)) ∧
    (∀ d t, d.types = some t → d.data = .null → (dynamic d).toDynamic = .ok { d with data := .object [] }) := by
  refine ⟨fun _ _ h => converts_toDynamic h, fun o j h hj => ?_, fun _ _ h hj => toDynamic_typed_error h hj,
    writable_builtin, writable_registry, fun _ _ h hv => ordered_of_toJson h hv, fun d t fs ht hdata hfree => ?_,
    fun _ _ ht hdata => toDynamic_null ht hdata⟩
  · obtain ⟨v, d, hv, hd, hdata⟩ := toDynamic_typed h hj
    refine ⟨v, d, hv, hd, hdata, fun hordered => ?_⟩
    rw [hdata, Table.ofList_of_ordered (Table.ordered_without hordered reservedFields)]
  · have hd := toDynamic_dynamic ht hdata hfree
    refine ⟨hd, fun hordered => ?_⟩
    rw [hd, Table.ofList_of_ordered hordered, ← hdata]

/-- A configuration map with two fields. -/
def labelledMap : DynamicObject :=
  ⟨some ⟨"v1", "ConfigMap"⟩, { name := some "settings" },
    .object [("data", .object [("colour", .string "blue")]), ("immutable", .bool true)]⟩

def threeReplicas : Registry := ⟨{ name := some "registry" }, 3, none⟩

theorem toDynamic_lossless_examples :
    (dynamic labelledMap).toDynamic = .ok labelledMap ∧ Converts (dynamic labelledMap) labelledMap ∧
      (dynamic { labelledMap with data := .null }).toDynamic = .ok { labelledMap with data := .object [] } ∧
      ∃ d, (registry threeReplicas).toDynamic = .ok d ∧
        d.data = .object [("spec", .object [("replicas", .int 3)])] := by
  obtain ⟨hidentity, htyped, -, -, -, hkinds, hsame, hempty⟩ := toDynamic_lossless
  have hordered : Table.Ordered [("data", Json.object [("colour", .string "blue")]), ("immutable", .bool true)] :=
    List.pairwise_pair.2 (by decide)
  have hmap := (hsame labelledMap _ _ rfl rfl (by decide)).2 hordered
  refine ⟨hmap, hidentity _ _ hmap, hempty _ _ rfl rfl, ?_⟩
  obtain ⟨v, d, hvalue, hd, -, hdata⟩ := htyped (registry threeReplicas) _ trivial rfl
  refine ⟨d, hd, ?_⟩
  rw [hdata (hkinds _ v (.tracked threeReplicas.tracked) (congrArg Except.ok hvalue))]
  cases hvalue
  rfl

end ManagedObject

end Reconciliation
