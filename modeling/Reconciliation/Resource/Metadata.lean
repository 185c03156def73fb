import Reconciliation.Json.Decode
/-!
# Object metadata

What every resource says about itself beside its payload. Each field may be unset, and an unset field
is not written. Times are written in whole seconds; all else is written as it was read.
-/

namespace Reconciliation

/-- A reference from an object to an object that owns it. -/
structure OwnerReference where
  apiVersion : String
  kind : String
  name : String
  uid : String
  controller : Option Bool := none
  blockOwnerDeletion : Option Bool := none
  deriving DecidableEq, Repr, Inhabited

/-- Which fields of an object a manager of fields has set. -/
structure ManagedFields where
  apiVersion : Option String
  fieldsType : Option String
  fieldsV1 : Option Json
  manager : Option String
  operation : Option String
  subresource : Option String
  time : Option Instant
  deriving Inhabited

structure ObjectMeta where
  annotations : Option (Table String) := none
  creationTimestamp : Option Instant := none
  deletionGracePeriodSeconds : Option Int64 := none
  deletionTimestamp : Option Instant := none
  finalizers : Option (List String) := none
  generateName : Option String := none
  generation : Option Int64 := none
  labels : Option (Table String) := none
  managedFields : Option (List ManagedFields) := none
  name : Option String := none
  nameSpace : Option String := none
  ownerReferences : Option (List OwnerReference) := none
  resourceVersion : Option String := none
  selfLink : Option String := none
  uid : Option String := none
  deriving Inhabited

namespace OwnerReference

def toJson (r : OwnerReference) : Json :=
  .ofFields [
    ("apiVersion", some (.string r.apiVersion)),
    ("blockOwnerDeletion", r.blockOwnerDeletion.map .bool),
    ("controller", r.controller.map .bool),
    ("kind", some (.string r.kind)),
    ("name", some (.string r.name)),
    ("uid", some (.string r.uid))]

/-- Reads a reference. An unset text is empty. -/
def decode : Decoder OwnerReference := fun w => do
  let fs ← Decoder.fields "OwnerReference" w
  return {
    apiVersion := ← Decoder.withDefault fs "apiVersion" Decoder.text ""
    blockOwnerDeletion := ← Decoder.optional fs "blockOwnerDeletion" Decoder.bool
    controller := ← Decoder.optional fs "controller" Decoder.bool
    kind := ← Decoder.withDefault fs "kind" Decoder.text ""
    name := ← Decoder.withDefault fs "name" Decoder.text ""
    uid := ← Decoder.withDefault fs "uid" Decoder.text "" }

end OwnerReference

/-- A time in whole seconds. -/
def Instant.toJson (t : Instant) : Json :=
  .string (t.toRfc3339 .seconds)

namespace ManagedFields

def toJson (m : ManagedFields) : Json :=
  .ofFields [
    ("apiVersion", m.apiVersion.map .string),
    ("fieldsType", m.fieldsType.map .string),
    ("fieldsV1", m.fieldsV1),
    ("manager", m.manager.map .string),
    ("operation", m.operation.map .string),
    ("subresource", m.subresource.map .string),
    ("time", m.time.map Instant.toJson)]

def decode : Decoder ManagedFields := fun w => do
  let fs ← Decoder.fields "ManagedFieldsEntry" w
  return {
    apiVersion := ← Decoder.optional fs "apiVersion" Decoder.text
    fieldsType := ← Decoder.optional fs "fieldsType" Decoder.text
    fieldsV1 := ← Decoder.optional fs "fieldsV1" Decoder.any
    manager := ← Decoder.optional fs "manager" Decoder.text
    operation := ← Decoder.optional fs "operation" Decoder.text
    subresource := ← Decoder.optional fs "subresource" Decoder.text
    time := ← Decoder.optional fs "time" Decoder.time }

end ManagedFields

namespace ObjectMeta

def toJson (m : ObjectMeta) : Json :=
  .ofFields [
    ("annotations", m.annotations.map .ofTexts),
    ("creationTimestamp", m.creationTimestamp.map Instant.toJson),
    ("deletionGracePeriodSeconds", m.deletionGracePeriodSeconds.map fun n => .int n.toInt),
    ("deletionTimestamp", m.deletionTimestamp.map Instant.toJson),
    ("finalizers", m.finalizers.map fun fs => .array (fs.map .string)),
    ("generateName", m.generateName.map .string),
    ("generation", m.generation.map fun n => .int n.toInt),
    ("labels", m.labels.map .ofTexts),
    ("managedFields", m.managedFields.map fun ms => .array (ms.map ManagedFields.toJson)),
    ("name", m.name.map .string),
    ("namespace", m.nameSpace.map .string),
    ("ownerReferences", m.ownerReferences.map fun rs => .array (rs.map OwnerReference.toJson)),
    ("resourceVersion", m.resourceVersion.map .string),
    ("selfLink", m.selfLink.map .string),
    ("uid", m.uid.map .string)]

/-- Reads metadata. Fields of other names are dropped. -/
def decode : Decoder ObjectMeta := fun w => do
  let fs ← Decoder.fields "ObjectMeta" w
  return {
    annotations := ← Decoder.optional fs "annotations" (Decoder.table Decoder.text)
    creationTimestamp := ← Decoder.optional fs "creationTimestamp" Decoder.time
    deletionGracePeriodSeconds :=
      ← Decoder.optional fs "deletionGracePeriodSeconds" Decoder.int64
    deletionTimestamp := ← Decoder.optional fs "deletionTimestamp" Decoder.time
    finalizers := ← Decoder.optional fs "finalizers" (Decoder.list Decoder.text)
    generateName := ← Decoder.optional fs "generateName" Decoder.text
    generation := ← Decoder.optional fs "generation" Decoder.int64
    labels := ← Decoder.optional fs "labels" (Decoder.table Decoder.text)
    managedFields := ← Decoder.optional fs "managedFields" (Decoder.list ManagedFields.decode)
    name := ← Decoder.optional fs "name" Decoder.text
    nameSpace := ← Decoder.optional fs "namespace" Decoder.text
    ownerReferences := ← Decoder.optional fs "ownerReferences" (Decoder.list OwnerReference.decode)
    resourceVersion := ← Decoder.optional fs "resourceVersion" Decoder.text
    selfLink := ← Decoder.optional fs "selfLink" Decoder.text
    uid := ← Decoder.optional fs "uid" Decoder.text }

/-- Takes over what a stored object is known by: its version, and its identifier if it has one. -/
def adopt (m stored : ObjectMeta) : ObjectMeta :=
  { m with
    resourceVersion := stored.resourceVersion
    uid := stored.uid <|> m.uid }

/-- Moves the object to a namespace, unless that is unset or empty. -/
def inNamespace (m : ObjectMeta) (target : Option String) : ObjectMeta :=
  match target.filter (· != "") with
  | none => m
  | some ns => { m with nameSpace := some ns }

end ObjectMeta

end Reconciliation
