import Reconciliation.Resource.Managed
/-!
# Ownership

An object that was made for another refers to it as its controller, so that it is removed with it. An
object has one controller at most, and the owner of a namespaced object must be in its namespace or in
none.

`controllerReference?` is the reference that an owner is named by and `own` sets it; whoever wants another
policy passes a `Stamper` of its own.
-/

namespace Reconciliation

inductive OwnershipError where
  | untypedOwner
  | unidentifiedOwner (kind : String)
  | crossNamespace (owner ownerNamespace objectNamespace : String)
  | alreadyOwned (kind name : String)
  deriving DecidableEq, Repr

namespace OwnershipError

def message : OwnershipError → String
  | untypedOwner => "owner has no apiVersion/kind"
  | unidentifiedOwner kind => "owner " ++ kind ++ " has no name or uid yet"
  | crossNamespace owner ownerNamespace objectNamespace =>
    "cross-namespace owner references are disallowed: owner " ++ owner ++ " in " ++ ownerNamespace
      ++ ", object in " ++ objectNamespace
  | alreadyOwned kind name =>
    "object is already owned by another " ++ kind ++ " controller " ++ name

end OwnershipError

namespace OwnerReference

/-- Whether two references name the same owner: the same group, kind and name. The version of the group
and the identifier may have changed in the meantime. -/
def sameOwner (a b : OwnerReference) : Bool :=
  groupOf a.apiVersion == groupOf b.apiVersion && a.kind == b.kind && a.name == b.name

def isController (r : OwnerReference) : Bool :=
  r.controller == some true

/-- The references with one more, in place of the first to the same owner or else at the end. -/
def put : List OwnerReference → OwnerReference → List OwnerReference
  | [], r => [r]
  | s :: rest, r => if sameOwner s r then r :: rest else s :: put rest r

end OwnerReference

namespace Ownership

/-- The reference that names an object as a controller. -/
def controllerReference? (owner : ManagedObject) : Except OwnershipError OwnerReference :=
  match owner.types.filter fun t => t.apiVersion != "" && t.kind != "" with
  | none => .error .untypedOwner
  | some t =>
    match owner.metadata.name, owner.metadata.uid with
    | some name, some uid =>
      .ok {
        apiVersion := t.apiVersion
        kind := t.kind
        name := name
        uid := uid
        controller := some true
        blockOwnerDeletion := some true }
    | _, _ => .error (.unidentifiedOwner t.kind)

/-- Refuses an owner of another namespace. -/
def sameNamespace (owner : ManagedObject) (name : String) (m : ObjectMeta) :
    Except OwnershipError Unit :=
  match owner.metadata.nameSpace.filter (· != "") with
  | none => .ok ()
  | some ns =>
    if m.nameSpace.getD "" = ns then .ok ()
    else .error (.crossNamespace name ns (m.nameSpace.getD ""))

/-- Refuses an object with a controller other than the one that a reference names. -/
def uncontrolled (references : List OwnerReference) (r : OwnerReference) : Except OwnershipError Unit :=
  match references.find? fun s => s.isController && !s.sameOwner r with
  | none => .ok ()
  | some s => .error (.alreadyOwned s.kind s.name)

/-- Marks an owner. There is a list of owner references from before the last check on, and a refusal leaves the
metadata as they are by then. -/
def own (owner : ManagedObject) (m : ObjectMeta) : ObjectMeta × Option OwnershipError :=
  match controllerReference? owner with
  | .error e => (m, some e)
  | .ok r =>
    match sameNamespace owner r.name m with
    | .error e => (m, some e)
    | .ok () =>
      let references := m.ownerReferences.getD []
      let m := { m with ownerReferences := some references }
      match uncontrolled references r with
      | .error e => (m, some e)
      | .ok () => ({ m with ownerReferences := some (OwnerReference.put references r) }, none)

end Ownership

/-- A way to mark the metadata of an object with its owner: the metadata afterwards, and why it failed if
it did. -/
abbrev Stamper : Type := ManagedObject → ObjectMeta → ObjectMeta × Option OwnershipError

/-- Marks the owner as controller. -/
def Stamper.controllerReference : Stamper := Ownership.own

end Reconciliation
