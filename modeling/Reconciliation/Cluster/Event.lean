import Reconciliation.Pass.Effect
/-!
# Events in a cluster

An event about an object is itself an object of the cluster. One that happens again becomes a series: the
first event with a count.

The times of an event are left to whoever sends it. The mark that ends its name, and tells it apart from
other events about the same object, is given from outside.
-/

namespace Reconciliation

/-- Who publishes events. -/
structure Reporter where
  controller : String
  replica : Option String
  deriving DecidableEq, Repr

structure Event where
  name : String
  notice : Notice
  reporter : Reporter
  count : Option Nat := none
  deriving DecidableEq, Repr

namespace Event

def defaultNamespace : String := "default"

def apiVersion : String := "events.k8s.io/v1"

def kind : String := "Event"

def first (reporter : Reporter) (mark : String) (n : Notice) : Event :=
  { name := n.reference.name ++ "." ++ mark, notice := n, reporter := reporter }

def again (e : Event) : Event :=
  { e with count := some (e.count.getD 1 + 1) }

/-- The namespace that an event is published in. Its metadata names that of the object, if there is
one. -/
def nameSpace (e : Event) : String :=
  e.notice.reference.nameSpace.getD defaultNamespace

def toJson (e : Event) : Json :=
  .ofFields [
    ("apiVersion", some (.string apiVersion)),
    ("kind", some (.string kind)),
    ("metadata", some (.ofFields [
      ("name", some (.string e.name)),
      ("namespace", e.notice.reference.nameSpace.map .string)])),
    ("type", some (.string e.notice.severity.name)),
    ("action", some (.string e.notice.action)),
    ("reason", some (.string e.notice.reason)),
    ("note", some (.string e.notice.message)),
    ("regarding", some e.notice.reference.toJson),
    ("reportingController", some (.string e.reporter.controller)),
    ("reportingInstance", some (.string (e.reporter.replica.getD e.reporter.controller))),
    ("series", e.count.map fun n => .object [("count", .int n)])]

/-! ### Reading -/

def decodeSource : Decoder Unit := fun w => do
  let fs ← Decoder.fields "EventSource" w
  for name in ["component", "host"] do
    discard <| Decoder.optional fs name Decoder.text

def decodeReference : Decoder Unit := fun w => do
  let fs ← Decoder.fields "ObjectReference" w
  for name in ["apiVersion", "fieldPath", "kind", "name", "namespace", "resourceVersion", "uid"] do
    discard <| Decoder.optional fs name Decoder.text

def decodeSeries : Decoder Unit := fun w => do
  let fs ← Decoder.fields "EventSeries" w
  discard <| Decoder.optional fs "count" (Decoder.signed 32)
  discard <| Decoder.optional fs "lastObservedTime" Decoder.time

/-- Reads the event that a cluster answers with. Nothing of it is used. -/
def decode : Decoder Unit := fun w => do
  let fs ← Decoder.fields "Event" w
  Decoder.constant fs "apiVersion" apiVersion
  Decoder.constant fs "kind" kind
  for name in ["action", "note", "reason", "reportingController", "reportingInstance", "type"] do
    discard <| Decoder.optional fs name Decoder.text
  for name in ["deprecatedFirstTimestamp", "deprecatedLastTimestamp", "eventTime"] do
    discard <| Decoder.optional fs name Decoder.time
  for name in ["regarding", "related"] do
    discard <| Decoder.optional fs name decodeReference
  discard <| Decoder.optional fs "deprecatedCount" (Decoder.signed 32)
  discard <| Decoder.optional fs "deprecatedSource" decodeSource
  discard <| Decoder.optional fs "metadata" ObjectMeta.decode
  discard <| Decoder.optional fs "series" decodeSeries

end Event

end Reconciliation
