import Reconciliation.Store
/-!
# A store in memory

Objects are filed under the path of their identity. Every successful write takes a new version from one
counter, so a version names one write and is never issued again, not even after a deletion. An update
that carries a version must carry the stored one.

The status is written by `updateStatus` alone: a creation stores none, and an update keeps the stored
one. Calls on identified objects are logged, and of the log only the latest part is kept.
-/

namespace Reconciliation

/-- An attempted call: its kind, and the path of the object. -/
structure LoggedCall where
  kind : CallKind
  path : String
  deriving DecidableEq, Repr

/-- A store in memory. The number of the latest version stands for a counter of 64 bits; runs of 2^64 writes, at the
end of which such a counter has no next version, are left out. -/
structure Memory where
  objects : Table DynamicObject := []
  version : Nat := 0
  log : List LoggedCall := []
  rejectsStatus : Bool := false
  deriving Inhabited

namespace Memory

/-- The number of logged calls that are kept. -/
def maxLogged : Nat := 1024

/-- Notes an attempted call, in place of the oldest one when the log is full. -/
def record (m : Memory) (kind : CallKind) (path : String) : Memory :=
  { m with
    log := (if m.log.length = maxLogged then m.log.drop 1 else m.log) ++ [⟨kind, path⟩] }

/-- The object stored under an identity. -/
def stored (m : Memory) (k : ObjectKey) : Option DynamicObject :=
  m.objects.find? k.path

def clearLog (m : Memory) : Memory :=
  { m with log := [] }

/-- Stores an object with the next version. -/
def put (m : Memory) (path : String) (o : DynamicObject) : Memory :=
  { m with objects := m.objects.insert path o, version := m.version + 1 }

/-- The version that the next write takes. -/
def nextVersion (m : Memory) : String :=
  toString (m.version + 1)

def withVersion (o : DynamicObject) (version : String) : DynamicObject :=
  { o with metadata := { o.metadata with resourceVersion := some version } }

/-- Refuses an object that carries another version than the stored one. -/
def checkVersion (k : ObjectKey) (stored incoming : DynamicObject) : Except StoreError Unit :=
  match incoming.metadata.resourceVersion with
  | none => .ok ()
  | some version =>
    if stored.metadata.resourceVersion = some version then .ok ()
    else .error (.conflict k.kind.kind k.name
      ("the object has been modified; resourceVersion " ++ version ++ " is stale"))

/-- The form in which a new object is stored. -/
def newObject (o : DynamicObject) (version : String) : DynamicObject :=
  let o := (withVersion o version).withStatus none
  { o with metadata := { o.metadata with uid := o.metadata.uid <|> some ("memory-" ++ version) } }

/-- The form in which an updated object is stored. -/
def updatedObject (stored incoming : DynamicObject) (version : String) : DynamicObject :=
  let o := (withVersion incoming version).withStatus stored.status?
  { o with metadata := { o.metadata with uid := stored.metadata.uid } }

/-- The form in which an object is stored after its status was written. -/
def restatedObject (stored incoming : DynamicObject) (version : String) : DynamicObject :=
  (withVersion stored version).withStatus incoming.status?

def get (k : ObjectKey) (m : Memory) : Except StoreError DynamicObject × Memory :=
  let m := m.record .get k.path
  match m.objects.find? k.path with
  | some o => (.ok o, m)
  | none => (.error (.notFound k.kind.kind k.name), m)

/-- Stores an object that is not there yet. -/
def create (o : DynamicObject) (m : Memory) : Except StoreError DynamicObject × Memory :=
  match storeKey o with
  | .error e => (.error e, m)
  | .ok k =>
    let m := m.record .create k.path
    if m.objects.contains k.path then (.error (.alreadyExists k.kind.kind k.name), m)
    else
      let o := newObject o m.nextVersion
      (.ok o, m.put k.path o)

/-- Stores what a writer makes of the stored object and the incoming one. -/
def overwrite (k : ObjectKey) (incoming : DynamicObject)
    (write : DynamicObject → DynamicObject → String → DynamicObject) (m : Memory) :
    Except StoreError DynamicObject × Memory :=
  match m.objects.find? k.path with
  | none => (.error (.notFound k.kind.kind k.name), m)
  | some stored =>
    match checkVersion k stored incoming with
    | .error e => (.error e, m)
    | .ok () =>
      let o := write stored incoming m.nextVersion
      (.ok o, m.put k.path o)

/-- Replaces a stored object but for its status and its identifier. -/
def update (o : DynamicObject) (m : Memory) : Except StoreError DynamicObject × Memory :=
  match storeKey o with
  | .error e => (.error e, m)
  | .ok k => overwrite k o updatedObject (m.record .update k.path)

/-- Replaces the status of a stored object, unless status writes are rejected. -/
def updateStatus (o : DynamicObject) (m : Memory) : Except StoreError DynamicObject × Memory :=
  match storeKey o with
  | .error e => (.error e, m)
  | .ok k =>
    let m := m.record .updateStatus k.path
    if m.rejectsStatus then (.error (.unavailable "status subresource rejected the write"), m)
    else overwrite k o restatedObject m

def delete (o : DynamicObject) (m : Memory) : Except StoreError Unit × Memory :=
  match storeKey o with
  | .error e => (.error e, m)
  | .ok k =>
    let m := m.record .delete k.path
    if m.objects.contains k.path then (.ok (), { m with objects := m.objects.erase k.path })
    else (.error (.notFound k.kind.kind k.name), m)

/-- The store in memory. -/
def respond : Store Memory
  | .get k => get k
  | .create o => create o
  | .update o => update o
  | .updateStatus o => updateStatus o
  | .delete o => delete o

end Memory

end Reconciliation
