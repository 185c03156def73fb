import Reconciliation.Resource.Managed
/-!
# Identity of objects

An object is identified by its kind, its namespace and its name. An empty namespace is none, and an
object without types or without a name has no identity.

`ObjectKey.of` reads the identity off an object, `ObjectKey.path` is the text under which a store in
memory files it, and `ObjectReference` is how an event refers to it.
-/

namespace Reconciliation

structure ObjectKey where
  kind : GroupVersionKind
  nameSpace : Option String
  name : String
  deriving DecidableEq, Repr, Inhabited

namespace ObjectKey

def ofParts (types : Option TypeMeta) (m : ObjectMeta) : Except ResourceError ObjectKey :=
  match types with
  | none => .error .untyped
  | some t =>
    match t.kind? with
    | .error e => .error e
    | .ok kind =>
      match m.name.filter (· != "") with
      | none => .error (.unnamed kind.kind)
      | some name => .ok ⟨kind, m.nameSpace.filter (· != ""), name⟩

def of (o : ManagedObject) : Except ResourceError ObjectKey :=
  ofParts o.types o.metadata

def ofDynamic (o : DynamicObject) : Except ResourceError ObjectKey :=
  ofParts o.types o.metadata

/-- The text under which an object is filed: API version, kind, namespace and name with slashes between
them, the namespace empty if there is none. -/
def path (k : ObjectKey) : String :=
  k.kind.apiVersion ++ "/" ++ k.kind.kind ++ "/" ++ k.nameSpace.getD "" ++ "/" ++ k.name

/-- The identity in a message. -/
def display (k : ObjectKey) : String :=
  match k.nameSpace with
  | some ns => k.kind.kind ++ " " ++ ns ++ "/" ++ k.name
  | none => k.kind.kind ++ " " ++ k.name

end ObjectKey

/-- How an event refers to the object that it is about. -/
structure ObjectReference where
  apiVersion : String
  kind : String
  name : String
  nameSpace : Option String
  uid : Option String
  resourceVersion : Option String
  deriving DecidableEq, Repr, Inhabited

namespace ObjectReference

/-- The reference to an object: its identity, and its version and identifier as far as it has them. -/
def of (o : ManagedObject) : Except ResourceError ObjectReference :=
  (ObjectKey.of o).map fun k =>
    { apiVersion := k.kind.apiVersion
      kind := k.kind.kind
      name := k.name
      nameSpace := k.nameSpace
      uid := o.metadata.uid
      resourceVersion := o.metadata.resourceVersion }

def toJson (r : ObjectReference) : Json :=
  .ofFields [
    ("apiVersion", some (.string r.apiVersion)),
    ("kind", some (.string r.kind)),
    ("name", some (.string r.name)),
    ("namespace", r.nameSpace.map .string),
    ("resourceVersion", r.resourceVersion.map .string),
    ("uid", r.uid.map .string)]

end ObjectReference

end Reconciliation
