import Reconciliation.Text.Digits
/-!
# Log levels

A log entry has a level, and a filter lets entries through up to a verbosity: none of them, or those of a
level and of all more serious ones.
-/

namespace Reconciliation

inductive LogLevel where
  | error
  | warn
  | info
  | debug
  | trace
  deriving DecidableEq, Repr

namespace LogLevel

def name : LogLevel → String
  | error => "error"
  | warn => "warn"
  | info => "info"
  | debug => "debug"
  | trace => "trace"

end LogLevel

inductive Verbosity where
  | off
  | upTo (level : LogLevel)
  deriving DecidableEq, Repr

namespace Verbosity

def rank : Verbosity → Nat
  | off => 0
  | upTo .error => 1
  | upTo .warn => 2
  | upTo .info => 3
  | upTo .debug => 4
  | upTo .trace => 5

def ofRank? : Nat → Option Verbosity
  | 0 => some off
  | 1 => some (upTo .error)
  | 2 => some (upTo .warn)
  | 3 => some (upTo .info)
  | 4 => some (upTo .debug)
  | 5 => some (upTo .trace)
  | _ => none

@[simp] theorem ofRank?_rank (v : Verbosity) : ofRank? v.rank = some v := by
  rcases v with _ | l
  · rfl
  · cases l <;> rfl

def name : Verbosity → String
  | off => "off"
  | upTo level => level.name

def full : Verbosity := upTo .trace

def allows (v : Verbosity) (level : LogLevel) : Bool :=
  (upTo level).rank ≤ v.rank

def max (v w : Verbosity) : Verbosity :=
  if v.rank ≤ w.rank then w else v

def all : List Verbosity :=
  [off, upTo .error, upTo .warn, upTo .info, upTo .debug, upTo .trace]

/-- Reads a verbosity: its place, or its word in any case of the letters. -/
def ofText? (s : String) : Option Verbosity :=
  match (Text.word64? s).bind ofRank? with
  | some v => some v
  | none => all.find? fun v => v.name == s.toLower

end Verbosity

end Reconciliation
