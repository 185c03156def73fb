import Reconciliation.Cluster.Discovery
/-!
# Clients

A client knows the namespace that namespaced objects are in when they name none.
-/

namespace Reconciliation

/-- What is known of a cluster before it is asked. -/
structure Client where
  defaultNamespace : String
  deriving DecidableEq, Repr

namespace Client

/-- The collection of a resource: all its objects, or those of a namespace if they are in namespaces. -/
def collection (c : Client) (r : ServedResource) (nameSpace : Option String) : Collection :=
  ⟨r.resource, if r.namespaced then some (nameSpace.getD c.defaultNamespace) else none⟩

/-- The collection of a resource that is taken to be namespaced when a namespace is given. An empty
namespace is none. -/
def collectionOf (c : Client) (r : ApiResource) (nameSpace : Option String) : Collection :=
  let ns := nameSpace.filter (· != "")
  c.collection ⟨r, ns.isSome⟩ ns

/-- Asks for the collection that an object of a kind belongs to, its namespace taken as it is. -/
def pin (c : Client) (k : GroupVersionKind) (nameSpace : Option String) : Attempt Collection := do
  return c.collection (← Discovery.pin k) nameSpace

end Client

end Reconciliation
