import Reconciliation.Logging.Filter
/-!
# Logging

A process has one log. It is set up once, with a filter and a format, and a second attempt fails. Callers
look at a shared verbosity before they make an entry; it covers the filter of the log and of the latest
attempt to set one up.
-/

namespace Reconciliation

inductive LogFormat where
  | json
  | text
  deriving DecidableEq, Repr

namespace LogFormat

def ofName (s : String) : LogFormat :=
  if s.toLower = "json" then json else text

def name : LogFormat → String
  | json => "json"
  | text => "text"

end LogFormat

structure LogEntry where
  format : LogFormat
  level : LogLevel
  message : String
  deriving DecidableEq, Repr

structure LogSink where
  filter : LogFilter
  format : LogFormat
  deriving DecidableEq, Repr

structure Logging where
  sink : Option LogSink := none
  verbosity : Verbosity := .off
  entries : List LogEntry := []

namespace Logging

def duplicateMessage : String :=
  "Failed to initialize tracing subscriber: a global default trace dispatcher has already been set"

def install (l : Logging) (sink : LogSink) : Except String Unit × Logging :=
  match l.sink with
  | none => (.ok (), { l with sink := some sink, verbosity := sink.filter.bound })
  | some first =>
    (.error duplicateMessage, { l with verbosity := first.filter.bound.max sink.filter.bound })

/-- Where the entries of a process with an environment and a configuration go. -/
def sinkOf (env : Environment) (c : Configuration) : LogSink :=
  ⟨.ofEnvironment env c, .ofName c.logFormat⟩

/-- Makes an entry, if the log lets it through. -/
def log (l : Logging) (target : String) (level : LogLevel) (message : String) : Logging :=
  match l.sink with
  | none => l
  | some s =>
    if l.verbosity.allows level && s.filter.allows target level then
      { l with entries := l.entries ++ [⟨s.format, level, message⟩] }
    else l

end Logging

end Reconciliation
