import Reconciliation.Pass.Synchronize
import Reconciliation.Template.Render
/-!
# Resources of templates

The operations of the synchronizer on all resources that a template gives for some data. The store is only
called when the whole template could be rendered and read.
-/

namespace Reconciliation

namespace Synchronize

def onRendered (t : Template) (data : Json)
    (operation : List ManagedObject → Pass (List ManagedObject × Except ReconcileError Unit)) :
    Pass (Except ReconcileError Unit) :=
  match t.resources data with
  | .error e => return .error (.template e)
  | .ok os => do
    let (_, r) ← operation (os.map .dynamic)
    return r

def convergeRendered (p : Placement) (t : Template) (data : Json) : Pass (Except ReconcileError Unit) :=
  onRendered t data (batch (converge p))

def ensureRenderedPresent (p : Placement) (t : Template) (data : Json) :
    Pass (Except ReconcileError Unit) :=
  onRendered t data (batch (ensurePresent p))

/-- Deletes the resources of a template, in another namespace if one is given. -/
def ensureRenderedAbsent (nameSpace : Option String) (t : Template) (data : Json) :
    Pass (Except ReconcileError Unit) :=
  onRendered t data fun os =>
    ensureAllAbsent (os.map fun o => o.withMetadata (o.metadata.inNamespace nameSpace))

end Synchronize

end Reconciliation
