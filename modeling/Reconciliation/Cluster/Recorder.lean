import Reconciliation.Cluster.Collection
import Reconciliation.Cluster.Event
import Reconciliation.Configuration
/-!
# Publishing events

A recorder publishes notices as events of a cluster and remembers those that arrived. A notice that says
the same about the same version of the same object as a remembered one is no event of its own: it
continues the series of that one. Publishing may fail, and then nothing is remembered.
-/

namespace Reconciliation

/-- A publisher of events, and the events that it has published. -/
structure Recorder where
  reporter : Reporter
  published : List Event := []

namespace Recorder

def ofConfiguration (c : Configuration) : Recorder :=
  { reporter := ⟨c.eventReporter, c.eventReporterInstance⟩ }

/-- Whether an event is of the same series as a notice: all but the message is the same. -/
def continues (n : Notice) (e : Event) : Bool :=
  e.notice.reference == n.reference && e.notice.severity == n.severity
    && e.notice.reason == n.reason && e.notice.action == n.action

def next (r : Recorder) (mark : String) (n : Notice) : Event :=
  match r.published.find? (continues n) with
  | some e => e.again
  | none => .first r.reporter mark n

def remember (r : Recorder) (e : Event) : Recorder :=
  { r with published := e :: r.published.filter (!continues e.notice ·) }

def collectionPath (nameSpace : String) : String :=
  "/apis/" ++ Event.apiVersion ++ "/namespaces/" ++ nameSpace ++ "/events"

/-- The request that sends an event: as a new one, or as a change of the first of its series. -/
def requestOf (e : Event) : Except ClusterError Request :=
  let path := collectionPath e.nameSpace
  match e.count with
  | none => Collection.request .post path (some e.toJson)
  | some _ => Collection.request .patch (path ++ "/" ++ e.name) (some e.toJson)

def send (e : Event) : Attempt Unit :=
  Exchange.submit Event.decode (requestOf e)

def publish (r : Recorder) (mark : String) (n : Notice) :
    Exchange (Recorder × Except ClusterError Unit) := do
  let e := r.next mark n
  match ← (send e).run with
  | .ok () => return (r.remember e, .ok ())
  | .error error => return (r, .error error)

end Recorder

end Reconciliation
