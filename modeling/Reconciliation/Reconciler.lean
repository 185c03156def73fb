import Reconciliation.Cluster.Client
import Reconciliation.Pass.Conclusion
import Reconciliation.Pass.Rendered
/-!
# Reconcilers

A reconciler bundles what its passes have in common: the configuration, the backoff that follows from it,
and the way in which owners are marked. The store, the clock and the events are the surroundings of each
pass. A reconciler of a cluster also has a client, with which it finds out where objects of any kind are.
-/

namespace Reconciliation

/-- What the passes of one controller have in common. -/
structure Reconciler where
  configuration : Configuration
  backoff : Backoff
  stamper : Stamper
  client : Option Client := none

/-- What a controller checks before it acts on an object. Unless it says otherwise, every object is valid
and initialized. -/
structure Hooks where
  isValid : ManagedObject → Except ReconcileError Bool := fun _ => .ok true
  isInitialized : ManagedObject → Bool := fun _ => true

namespace Reconciler

/-- The reconciler of a configuration, which marks owners as controllers. -/
def ofConfiguration (c : Configuration) : Reconciler :=
  { configuration := c, backoff := .ofConfiguration c, stamper := .controllerReference }

def ofCluster (client : Client) (c : Configuration) : Reconciler :=
  { ofConfiguration c with client := some client }

/-- The reconciler with another configuration and the backoff that follows from it. -/
def withConfiguration (r : Reconciler) (c : Configuration) : Reconciler :=
  { r with configuration := c, backoff := .ofConfiguration c }

variable (r : Reconciler) (owner : Option ManagedObject) (nameSpace : Option String)

def converge (o : ManagedObject) : Pass (ManagedObject × Except ReconcileError Unit) :=
  Synchronize.converge ⟨r.stamper, owner, nameSpace⟩ o

def ensurePresent (o : ManagedObject) : Pass (ManagedObject × Except ReconcileError Unit) :=
  Synchronize.ensurePresent ⟨r.stamper, owner, nameSpace⟩ o

/-- Updates or creates each object in turn, up to the first failure. -/
def convergeAll (os : List ManagedObject) : Pass (List ManagedObject × Except ReconcileError Unit) :=
  Synchronize.batch (r.converge owner nameSpace) os

/-- Creates each missing object in turn, up to the first failure. -/
def ensureAllPresent (os : List ManagedObject) :
    Pass (List ManagedObject × Except ReconcileError Unit) :=
  Synchronize.batch (r.ensurePresent owner nameSpace) os

def convergeRendered (t : Template) (data : Json) : Pass (Except ReconcileError Unit) :=
  Synchronize.convergeRendered ⟨r.stamper, owner, nameSpace⟩ t data

def ensureRenderedPresent (t : Template) (data : Json) : Pass (Except ReconcileError Unit) :=
  Synchronize.ensureRenderedPresent ⟨r.stamper, owner, nameSpace⟩ t data

def recordFailure (o : ManagedObject) (message : String) : Pass (ManagedObject × Requeue) :=
  Conclusion.recordFailure r.backoff o message

def recordSuccess (o : ManagedObject) : Pass (ManagedObject × Requeue) :=
  Conclusion.recordSuccess r.backoff o

/-! ### Clients for any kind -/

def withClient {α : Type} (f : Client → Exchange (Except ReconcileError α)) :
    Exchange (Except ReconcileError α) :=
  match r.client with
  | none => return .error .noClient
  | some c => f c

def discover : Exchange (Except ReconcileError Discovery) :=
  r.withClient fun _ => do return (← Discovery.run.run).mapError .discovery

/-- The collection of a resource: in a namespace if one is given, or else over all. -/
def collectionOf (resource : ApiResource) (nameSpace : Option String) :
    Except ReconcileError Collection :=
  match r.client with
  | none => .error .noClient
  | some c => .ok (c.collectionOf resource nameSpace)

def collectionFor (o : DynamicObject) : Exchange (Except ReconcileError Collection) :=
  r.withClient fun c =>
    match o.types with
    | none => return .error (.typeMismatch .untyped)
    | some t =>
      match t.kind? with
      | .error e => return .error (.typeMismatch e)
      | .ok k => do return (← (c.pin k o.metadata.nameSpace).run).mapError .discovery

end Reconciler

end Reconciliation
