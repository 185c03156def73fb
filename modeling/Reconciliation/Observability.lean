import Reconciliation.Logging
import Reconciliation.Metrics
/-!
# Observability

What a process shows of itself: its log and its metrics. Both are set up once per process.
-/

namespace Reconciliation

structure Observability where
  logging : Logging := {}
  exporter : Exporter := {}

namespace Observability

/-- The message of a start at which the metrics were registered already. -/
def metricsMessage : String := "Failed to register metrics"

def startLogging (o : Observability) (env : Environment) (c : Configuration) :
    Except String Unit × Observability :=
  let (r, logging) := o.logging.install (Logging.sinkOf env c)
  (r, { o with logging := logging })

def registerMetrics (o : Observability) : Except String Unit × Observability :=
  match o.exporter.register with
  | .ok exporter => (.ok (), { o with exporter := exporter })
  | .error message => (.error message, o)

/-- Sets up the log and, if they are wanted, registers the metrics. -/
def start (o : Observability) (env : Environment) (c : Configuration) :
    Except String Unit × Observability :=
  match o.startLogging env c with
  | (.error message, o) => (.error message, o)
  | (.ok (), o) =>
    if c.metricsEnabled then
      match o.registerMetrics with
      | (.ok (), o) => (.ok (), o)
      | (.error _, o) => (.error metricsMessage, o)
    else (.ok (), o)

def measure (o : Observability) (m : Measurement) : Observability :=
  { o with exporter := o.exporter.measure m }

def log (o : Observability) (target : String) (level : LogLevel) (message : String) : Observability :=
  { o with logging := o.logging.log target level message }

end Observability

end Reconciliation
