import Reconciliation.Resource.Dynamic
import Reconciliation.Status
/-!
# Managed objects

What a controller hands over to be kept in a store: an object of any kind, an object of a built-in kind,
or an object of a custom kind that tracks a reconcile status, such as a registry. The rest reaches them
through their types, their metadata, their payload and their status, and turns each into a dynamic object
before it is stored (`toDynamic`). This can fail: not everything that an object holds has a written form.
-/

namespace Reconciliation

/-- The fields of a value that no payload of a typed object has. -/
def reservedFields : List String := ["apiVersion", "kind", "metadata"]

/-- An object of a built-in kind: fixed types, metadata and the other fields of its value. -/
structure BuiltinObject where
  types : TypeMeta
  metadata : ObjectMeta
  body : Table Json := []
  body_free : ∀ name ∈ reservedFields, body.find? name = none := by simp [reservedFields]

/-- The field of an object that holds its reconcile status. -/
def Status.field (s : Status) : Json :=
  .object [("reconcileStatus", s.toJson)]

/-- The fields that an object has beside its header and its status, in the order of their names. -/
structure Contents where
  fields : Table Json
  ordered : fields.Ordered
  free : ∀ name ∈ "status" :: reservedFields, fields.find? name = none

/-- The fields with the status among them, if there is one. -/
def Contents.withStatus (c : Contents) : Option Status → Table Json
  | none => c.fields
  | some s => c.fields.insert "status" s.field

/-- An object of a custom kind that tracks its reconcile status. Its contents are what they are written as,
or why they cannot be written: a table with keys that are no texts has no written form. -/
structure TrackedObject where
  types : TypeMeta
  metadata : ObjectMeta
  contents : Except String Contents
  status : Option Status := none

/-- A registry, whose contents are its number of replicas. -/
structure Registry where
  metadata : ObjectMeta
  replicas : Int
  status : Option Status

namespace Registry

def types : TypeMeta := ⟨"quay.redhat.com/v1", "QuayRegistry"⟩

def contents (r : Registry) : Contents where
  fields := [("spec", .object [("replicas", .int r.replicas)])]
  ordered := List.pairwise_singleton _ _
  free := by simp [reservedFields]

/-- A registry as one of the objects that track their status. It can always be written. -/
def tracked (r : Registry) : TrackedObject where
  types := types
  metadata := r.metadata
  contents := .ok r.contents
  status := r.status

def decodeReconcileStatus : Decoder Status := fun w =>
  match Status.ofWritten? w with
  | some s => .ok s
  | none => .error (.mismatch w "a reconcile status")

def decodeStatus : Decoder Status := fun w => do
  let fs ← Decoder.record "the status of a registry" ["reconcileStatus"] w
  Decoder.defaulted fs "reconcileStatus" decodeReconcileStatus .default

/-- Reads the specification of a registry, which is its number of replicas. -/
def decodeSpec : Decoder Int := fun w => do
  let fs ← Decoder.record "the specification of a registry" ["replicas"] w
  Decoder.required fs "replicas" (Decoder.signed 32)

def decode : Decoder Registry := fun w => do
  let fs ← Decoder.record "a registry" ["metadata", "spec", "status"] w
  return {
    metadata := ← Decoder.required fs "metadata" ObjectMeta.decode
    replicas := ← Decoder.required fs "spec" decodeSpec
    status := ← Decoder.optional fs "status" decodeStatus }

end Registry

namespace BuiltinObject

/-- An object of a kind of the core group with nothing but metadata. -/
def plain (apiVersion kind : String) (m : ObjectMeta) : BuiltinObject :=
  { types := ⟨apiVersion, kind⟩, metadata := m }

/-- A binding of a role that is not named yet. -/
def binding (kind : String) (m : ObjectMeta) : BuiltinObject where
  types := ⟨"rbac.authorization.k8s.io/v1", kind⟩
  metadata := m
  body := [("roleRef", .object [("apiGroup", .string ""), ("kind", .string ""), ("name", .string "")])]

def configMapBody (data : Option (Table String)) (immutable : Option Bool) : Table Json :=
  (match data with
    | none => []
    | some t => [("data", .ofTexts t)])
  ++ match immutable with
    | none => []
    | some b => [("immutable", .bool b)]

def configMap (m : ObjectMeta) (data : Option (Table String)) (immutable : Option Bool) :
    BuiltinObject where
  types := ⟨"v1", "ConfigMap"⟩
  metadata := m
  body := configMapBody data immutable
  body_free := by
    cases data <;> cases immutable <;> simp [reservedFields, configMapBody]

def decodeConfigMap : Decoder BuiltinObject := fun w => do
  let fs ← Decoder.fields "ConfigMap" w
  Decoder.constant fs "apiVersion" "v1"
  Decoder.constant fs "kind" "ConfigMap"
  let data ← Decoder.optional fs "data" (Decoder.table Decoder.text)
  let immutable ← Decoder.optional fs "immutable" Decoder.bool
  let m ← Decoder.withDefault fs "metadata" ObjectMeta.decode {}
  return configMap m data immutable

/-- The API versions of the kinds that have nothing but metadata here. -/
def plainKinds : List (String × String) := [
  ("Secret", "v1"), ("Service", "v1"), ("ServiceAccount", "v1"), ("PersistentVolumeClaim", "v1"),
  ("Namespace", "v1"), ("Deployment", "apps/v1"), ("StatefulSet", "apps/v1"),
  ("DaemonSet", "apps/v1"), ("Job", "batch/v1"), ("CronJob", "batch/v1"),
  ("Ingress", "networking.k8s.io/v1"), ("Role", "rbac.authorization.k8s.io/v1"),
  ("ClusterRole", "rbac.authorization.k8s.io/v1")]

/-- The object of a built-in kind with nothing but metadata, if there is such a kind. -/
def ofKind? (kind : String) (m : ObjectMeta) : Option BuiltinObject :=
  if kind = "RoleBinding" ∨ kind = "ClusterRoleBinding" then some (binding kind m)
  else (plainKinds.find? fun k => k.1 == kind).map fun k => plain k.2 kind m

end BuiltinObject

/-- An object that a controller manages. -/
inductive ManagedObject where
  | dynamic (object : DynamicObject)
  | builtin (object : BuiltinObject)
  | tracked (object : TrackedObject)

namespace ManagedObject

def registry (r : Registry) : ManagedObject :=
  tracked r.tracked

def types : ManagedObject → Option TypeMeta
  | dynamic o => o.types
  | builtin o => some o.types
  | tracked o => some o.types

def metadata : ManagedObject → ObjectMeta
  | dynamic o => o.metadata
  | builtin o => o.metadata
  | tracked o => o.metadata

/-- The object with other metadata. -/
def withMetadata (o : ManagedObject) (m : ObjectMeta) : ManagedObject :=
  match o with
  | dynamic o => dynamic { o with metadata := m }
  | builtin o => builtin { o with metadata := m }
  | tracked o => tracked { o with metadata := m }

def typedValue (t : TypeMeta) (m : ObjectMeta) (body : Table Json) : Json :=
  .object (DynamicObject.withHeader body (DynamicObject.header (some t) m))

/-- The object as one value, or why it cannot be written. -/
def toJson : ManagedObject → Except String Json
  | dynamic o => o.toJson
  | builtin o => .ok (typedValue o.types o.metadata o.body)
  | tracked o => o.contents.map fun c => typedValue o.types o.metadata (c.withStatus o.status)

/-- Whether the object tracks a reconcile status. -/
def tracksStatus : ManagedObject → Bool
  | tracked _ => true
  | _ => false

/-- The reconcile status, for an object that tracks it. Before the first record it is the default. -/
def status? : ManagedObject → Option Status
  | tracked o => some (o.status.getD .default)
  | _ => none

/-- Sets the reconcile status of an object that tracks it. -/
def withStatus (o : ManagedObject) (s : Status) : ManagedObject :=
  match o with
  | tracked o => tracked { o with status := some s }
  | o => o

/-- The object in the form in which it is stored: its own types and metadata, and the rest of its value
as payload. -/
def toDynamic (o : ManagedObject) : Except ResourceError DynamicObject :=
  match o.types with
  | none => .error .untyped
  | some t =>
    match o.toJson with
    | .error detail => .error (.unwritable detail)
    | .ok j =>
      match DynamicObject.ofJson j with
      | .error e => .error (.unreadable e.message)
      | .ok d => .ok { d with types := some t, metadata := o.metadata }

end ManagedObject

end Reconciliation
