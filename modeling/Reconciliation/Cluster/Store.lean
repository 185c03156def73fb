import Reconciliation.Cluster.Client
import Reconciliation.Store
/-!
# The store of a cluster

A cluster is a store. Each call is an exchange of one request at most: the identity of the object gives
the collection, and the collection the path. What an answer of the cluster means for the store is
`StoreError.ofCluster`.
-/

namespace Reconciliation

/-- A cluster as a store: its client, and what it is known to serve. -/
structure ClusterStore where
  client : Client
  discovery : Option Discovery := none

namespace ClusterStore

def collection (s : ClusterStore) (k : ObjectKey) : Collection :=
  s.client.collection (Discovery.resolve s.discovery k.kind k.nameSpace.isSome) k.nameSpace

/-- The answer of the cluster as an answer of the store. -/
def concerning {α : Type} (k : ObjectKey) (a : Attempt α) : Exchange (Except StoreError α) := do
  let r ← a.run
  return r.mapError fun e => .ofCluster e k.kind.kind k.name

/-- An exchange about an object that has an identity. -/
def identified {α : Type} (s : ClusterStore) (o : DynamicObject)
    (f : Collection → ObjectKey → Attempt α) : Exchange (Except StoreError α) :=
  match storeKey o with
  | .error e => return .error e
  | .ok k => concerning k (f (s.collection k) k)

def get (s : ClusterStore) (k : ObjectKey) : Exchange (Except StoreError DynamicObject) :=
  concerning k ((s.collection k).get k.name)

def create (s : ClusterStore) (o : DynamicObject) : Exchange (Except StoreError DynamicObject) :=
  s.identified o fun c _ => c.create o

def update (s : ClusterStore) (o : DynamicObject) : Exchange (Except StoreError DynamicObject) :=
  s.identified o fun c k => c.replace k.name o

def delete (s : ClusterStore) (o : DynamicObject) : Exchange (Except StoreError Unit) :=
  s.identified o fun c k => c.delete k.name

/-- Replaces the status of an object, unless the object cannot be written. -/
def updateStatus (s : ClusterStore) (o : DynamicObject) :
    Exchange (Except StoreError DynamicObject) :=
  match storeKey o with
  | .error e => return .error e
  | .ok k =>
    match o.toJson with
    | .error detail => return .error (.serialization detail)
    | .ok body => concerning k ((s.collection k).replaceStatus k.name body)

def answer (s : ClusterStore) : (c : StoreCall) → Exchange c.Answer
  | .get k => s.get k
  | .create o => s.create o
  | .update o => s.update o
  | .updateStatus o => s.updateStatus o
  | .delete o => s.delete o

/-- The store over a server. -/
def respond {σ : Type} (s : ClusterStore) (server : Dialogue.Responder (fun _ : Request => Reply) σ) :
    Store σ := fun c w =>
  (s.answer c).run server w

def discovering (c : Client) : Exchange (Except StoreError ClusterStore) := do
  let r ← Discovery.run.run
  return match r with
  | .ok d => .ok ⟨c, some d⟩
  | .error e => .error (.api e)

end ClusterStore

end Reconciliation
