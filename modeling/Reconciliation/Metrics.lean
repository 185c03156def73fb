import Reconciliation.Time.Duration
/-!
# Metrics

What a reconciler counts: the operations on resources and the results of passes by their outcome, the
status writes that failed, and the delays that passes returned. The measurements are kept in the order in
which they were taken, and every exported number is a count over them.

Metrics are exported as text, families in the order of their names and the series of a family in the
order of their label values. A labelled family without a series is left out. `Exporter` is the process
wide registration, which succeeds once.
-/

namespace Reconciliation

inductive Measurement where
  | operation (operation outcome : String)
  | result (outcome : String)
  | statusWriteFailure
  | delay (seconds : Binary64)
  deriving DecidableEq, Repr

/-- The measurements taken so far, the earliest first. -/
abbrev Metrics : Type := List Measurement

namespace Metrics

def delays (ms : Metrics) : List Binary64 :=
  ms.filterMap fun
    | .delay d => some d
    | _ => none

def results (ms : Metrics) : List (List String) :=
  ms.filterMap fun
    | .result outcome => some [outcome]
    | _ => none

def operations (ms : Metrics) : List (List String) :=
  ms.filterMap fun
    | .operation operation outcome => some [operation, outcome]
    | _ => none

def statusWriteFailures (ms : Metrics) : Nat :=
  ms.count .statusWriteFailure

/-! ### Text -/

/-- A number as it is exported. -/
inductive Value where
  | count (n : Nat)
  | sum (x : Binary64)

def Value.text : Value → String
  | count n => toString n
  | sum x => x.toPlainText

/-- A family of series: its name, what it is about, its type, and its series with their numbers. -/
structure Family where
  name : String
  help : String
  type : String
  series : List (String × Value)

def escapeLabel (s : String) : String :=
  String.ofList (s.toList.flatMap fun c =>
    if c = '\\' then ['\\', '\\']
    else if c = '"' then ['\\', '"']
    else if c = '\n' then ['\\', 'n']
    else [c])

def seriesName (family : String) (labels : List (String × String)) : String :=
  family ++ "\x7b" ++ String.intercalate "," (labels.map fun l =>
    l.1 ++ "=\"" ++ escapeLabel l.2 ++ "\"") ++ "\x7d"

/-- Whether label values come first in their order, or are the same as others. -/
def precedes : List String → List String → Bool
  | [], _ => true
  | _ :: _, [] => false
  | a :: as, b :: bs => a < b || (a == b && precedes as bs)

/-- A family with a series for each combination of labels that occurs. -/
def labelled (name help : String) (labels : List String) (occurrences : List (List String)) : Family where
  name := name
  help := help
  type := "counter"
  series := (occurrences.eraseDups.mergeSort precedes).map fun values =>
    (seriesName name (labels.zip values), .count (occurrences.count values))

/-- The upper bounds, in seconds, by which delays are counted. -/
def delayBounds : List Nat := [0, 1, 2, 4, 8, 16, 32, 64, 300, 900, 3600, 21600]

/-- The series of the delays: how many are at most each bound, their sum and their number. -/
def delaySeries (name : String) (ds : List Binary64) : List (String × Value) :=
  delayBounds.map (fun bound =>
    (seriesName (name ++ "_bucket") [("le", toString bound)],
      .count (ds.countP fun d => d.le (.ofInt bound))))
  ++ [(seriesName (name ++ "_bucket") [("le", "+Inf")], .count ds.length),
    (name ++ "_sum", .sum (ds.foldl Binary64.add (.ofInt 0))),
    (name ++ "_count", .count ds.length)]

def families (ms : Metrics) : List Family := [
  { name := "reconcile_requeue_delay_seconds"
    help := "Requeue delay returned after a reconciliation pass in seconds"
    type := "histogram"
    series := delaySeries "reconcile_requeue_delay_seconds" ms.delays },
  labelled "reconcile_resource_operations_total"
    "Total number of resource synchronization operations" ["operation", "outcome"] ms.operations,
  labelled "reconcile_results_total" "Total number of reconciliation passes by outcome" ["outcome"]
    ms.results,
  { name := "reconcile_status_write_failures_total"
    help := "Total number of failed reconcile status writes"
    type := "counter"
    series := [("reconcile_status_write_failures_total", .count ms.statusWriteFailures)] }]

def Family.text (f : Family) : String :=
  if f.series.isEmpty then ""
  else
    "# HELP " ++ f.name ++ " " ++ f.help ++ "\n# TYPE " ++ f.name ++ " " ++ f.type ++ "\n"
      ++ String.join (f.series.map fun s => s.1 ++ " " ++ s.2.text ++ "\n")

def text (ms : Metrics) : String :=
  String.join (ms.families.map Family.text)

/-- The series that are counts, with their counts. -/
def counts (ms : Metrics) : List (String × Nat) :=
  ms.families.flatMap fun f => f.series.filterMap fun
    | (name, .count n) => some (name, n)
    | _ => none

end Metrics

/-- The metrics of a process and whether they were registered for export. -/
structure Exporter where
  metrics : Metrics := []
  registered : Bool := false

namespace Exporter

def duplicateMessage : String := "Duplicate metrics collector registration attempted"

/-- Registers the metrics, once. -/
def register (e : Exporter) : Except String Exporter :=
  if e.registered then .error duplicateMessage else .ok { e with registered := true }

/-- Takes a measurement, registered or not. -/
def measure (e : Exporter) (m : Measurement) : Exporter :=
  { e with metrics := e.metrics ++ [m] }

/-- The exported text, empty before the registration. -/
def gather (e : Exporter) : String :=
  if e.registered then e.metrics.text else ""

end Exporter

end Reconciliation
