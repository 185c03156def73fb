import Reconciliation.Observability
import Reconciliation.Proofs.Logging
/-!
# What a process shows of itself

The log and the metrics of a process do not touch each other: the log is what its own actions make of it
(`logging_runAll`), and the metrics are all measurements, also those from before the registration (`metrics_runAll`). A
process is started once. From then on every start fails, and all that it changes is the verbosity (`start_of_started`).
-/

namespace Reconciliation

/-- What is done with the log and the metrics of a process. -/
inductive ProcessAction where
  | start (env : Environment) (c : Configuration)
  | startLogging (env : Environment) (c : Configuration)
  | registerMetrics
  | measure (m : Measurement)
  | log (target : String) (level : LogLevel) (message : String)

namespace ProcessAction

/-- The part of an action that is about the log. -/
def logging? : ProcessAction → Option LogAction
  | start env c => some (.install (Logging.sinkOf env c))
  | startLogging env c => some (.install (Logging.sinkOf env c))
  | log target level message => some (.log target level message)
  | _ => none

def measurement? : ProcessAction → Option Measurement
  | measure m => some m
  | _ => none

end ProcessAction

namespace Observability

variable {o : Observability}

def perform (o : Observability) : ProcessAction → Observability
  | .start env c => (o.start env c).2
  | .startLogging env c => (o.startLogging env c).2
  | .registerMetrics => o.registerMetrics.2
  | .measure m => o.measure m
  | .log target level message => o.log target level message

def runAll (o : Observability) (as : List ProcessAction) : Observability :=
  as.foldl perform o

theorem registerMetrics_eq (o : Observability) :
    o.registerMetrics =
      (if o.exporter.registered then .error Exporter.duplicateMessage else .ok (),
        { o with exporter := { o.exporter with registered := true } }) := by
  obtain ⟨logging, metrics, registered⟩ := o
  rw [registerMetrics, Exporter.register]
  cases registered <;> rfl

/-- A start sets up the log, and goes on to the metrics only if there was no log before. -/
theorem start_eq (o : Observability) (env : Environment) (c : Configuration) :
    o.start env c =
      match o.logging.sink with
      | some _ => o.startLogging env c
      | none =>
        (if c.metricsEnabled && o.exporter.registered then .error metricsMessage else .ok (),
          { logging := (o.startLogging env c).2.logging
            exporter := { o.exporter with registered := c.metricsEnabled || o.exporter.registered } }) := by
  cases hsink : o.logging.sink with
  | some s =>
    rw [start, startLogging, Logging.install_of_some hsink]
  | none =>
    rw [start, startLogging, Logging.install_of_none hsink]
    dsimp only
    cases c.metricsEnabled with
    | false => rfl
    | true =>
      rw [registerMetrics_eq]
      cases o.exporter.registered <;> rfl

/-- A start succeeds in a process without a log whose metrics are not registered, unless they are not wanted. -/
theorem start_eq_ok_iff (o : Observability) (env : Environment) (c : Configuration) :
    (o.start env c).1 = .ok () ↔
      o.logging.sink = none ∧ (c.metricsEnabled = true → o.exporter.registered = false) := by
  rw [start_eq]
  cases hsink : o.logging.sink with
  | some s =>
    rw [startLogging, Logging.install_of_some hsink]
    simp
  | none =>
    cases c.metricsEnabled <;> cases o.exporter.registered <;> simp

theorem logging_perform (o : Observability) (a : ProcessAction) :
    (o.perform a).logging = (a.logging?.toList).foldl Logging.perform o.logging := by
  cases a with
  | start env c =>
    rw [perform, start_eq]
    cases o.logging.sink <;> rfl
  | registerMetrics =>
    rw [perform, registerMetrics_eq]
    rfl
  | startLogging | measure | log => rfl

/-- The log of a process is what the actions that are about the log make of it. -/
theorem logging_runAll (o : Observability) (as : List ProcessAction) :
    (o.runAll as).logging = o.logging.runAll (as.filterMap ProcessAction.logging?) := by
  induction as generalizing o with
  | nil => rfl
  | cons a rest ih =>
    rw [runAll, List.foldl_cons, ← runAll, ih, logging_perform, Logging.filterMap_cons_eq_append, Logging.runAll,
      Logging.runAll, List.foldl_append]

theorem metrics_perform (o : Observability) (a : ProcessAction) :
    (o.perform a).exporter.metrics = o.exporter.metrics ++ a.measurement?.toList := by
  cases a with
  | start env c =>
    rw [perform, start_eq]
    cases o.logging.sink <;> exact (List.append_nil _).symm
  | registerMetrics =>
    rw [perform, registerMetrics_eq]
    exact (List.append_nil _).symm
  | startLogging | log => exact (List.append_nil _).symm
  | measure m => rfl

/-- The metrics of a process are its measurements, in the order in which they were taken. -/
theorem metrics_runAll (o : Observability) (as : List ProcessAction) :
    (o.runAll as).exporter.metrics = o.exporter.metrics ++ as.filterMap ProcessAction.measurement? := by
  induction as generalizing o with
  | nil => exact (List.append_nil _).symm
  | cons a rest ih =>
    rw [runAll, List.foldl_cons, ← runAll, ih, metrics_perform, Logging.filterMap_cons_eq_append, List.append_assoc]

/-- Once a process has a log, every later start fails, and all that it changes is the verbosity. -/
theorem start_of_started {s : LogSink} (h : o.logging.sink = some s) (as : List ProcessAction) (env : Environment)
    (c : Configuration) :
    (o.runAll as).start env c = (.error Logging.duplicateMessage,
      { o.runAll as with logging := { (o.runAll as).logging with
        verbosity := s.filter.bound.max (Logging.sinkOf env c).filter.bound } }) := by
  have hsink : (o.runAll as).logging.sink = some s := by
    rw [logging_runAll, Logging.sink_runAll h]
  rw [start_eq, hsink]
  dsimp only
  rw [startLogging, Logging.install_of_some hsink]

end Observability

end Reconciliation
