import Reconciliation.Text.Digits
import Reconciliation.Time.Duration
/-!
# Configuration

The settings of a reconciler, read from the variables of an environment. A variable that is absent or is
not valid UTF-8 leaves the default, and so does a number that is not positive or does not fit 64 bits: a
backoff of zero would turn every requeue into a busy loop.
-/

namespace Reconciliation

/-- The variables of a process: names with the bytes of their values. -/
structure Environment where
  bytes? : String → Option ByteArray

namespace Environment

/-- The environment of a list of variables, the first of a name counting. -/
def ofList (vars : List (String × ByteArray)) : Environment :=
  ⟨fun name => (vars.find? fun v => v.1 == name).map Prod.snd⟩

/-- The text of a variable, if it is set to one. -/
def text? (env : Environment) (name : String) : Option String :=
  (env.bytes? name).bind String.fromUTF8?

end Environment

structure Configuration where
  backoffBaseSeconds : Nat
  backoffMaxSeconds : Nat
  eventReporter : String
  eventReporterInstance : Option String
  logLevel : String
  logFormat : String
  metricsEnabled : Bool
  deriving DecidableEq, Repr

namespace Configuration

def default : Configuration where
  backoffBaseSeconds := 1
  backoffMaxSeconds := 21600
  eventReporter := "reconcile-utils"
  eventReporterInstance := none
  logLevel := "INFO"
  logFormat := "json"
  metricsEnabled := true

instance : Inhabited Configuration := ⟨default⟩

def positive (env : Environment) (name : String) (otherwise : Nat) : Nat :=
  match (env.text? name).bind Text.word64? with
  | none => otherwise
  | some 0 => otherwise
  | some n => n

/-- The words that switch something on, in any case of their letters. -/
def isAffirmative (s : String) : Bool :=
  ["true", "1", "yes", "on"].contains s.toLower

def ofEnvironment (env : Environment) : Configuration where
  backoffBaseSeconds := positive env "RECONCILE_BACKOFF_BASE_SECS" default.backoffBaseSeconds
  backoffMaxSeconds := positive env "RECONCILE_BACKOFF_MAX_SECS" default.backoffMaxSeconds
  eventReporter := (env.text? "EVENT_REPORTER").getD default.eventReporter
  eventReporterInstance := (env.text? "EVENT_REPORTER_INSTANCE").filter (· != "")
  logLevel := (env.text? "LOG_LEVEL").getD default.logLevel
  logFormat := (env.text? "LOG_FORMAT").getD default.logFormat
  metricsEnabled := ((env.text? "ENABLE_METRICS").map isAffirmative).getD default.metricsEnabled

def backoffBase (c : Configuration) : Duration :=
  .ofSeconds c.backoffBaseSeconds

def backoffMax (c : Configuration) : Duration :=
  .ofSeconds c.backoffMaxSeconds

end Configuration

end Reconciliation
