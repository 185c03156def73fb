import Reconciliation.Logging
import Reconciliation.Proofs.Logging.Filter
/-!
# What gets into the log

The first attempt to set up the log succeeds and every later one fails. From the first one on, the log has the entries
that its filter lets through, in its format (`entries_runAll`). The shared verbosity has no part in this: it is at least
the bound of the filter at any time, whatever the failed attempts made of it (`Covered`).
-/

namespace Reconciliation

/-- What is done with the log of a process. -/
inductive LogAction where
  | install (sink : LogSink)
  | log (target : String) (level : LogLevel) (message : String)

/-- The entry that is made of an action by a log that goes to a sink. -/
def LogSink.entry? (s : LogSink) : LogAction → Option LogEntry
  | .install _ => none
  | .log target level message => if s.filter.allows target level then some ⟨s.format, level, message⟩ else none

namespace Logging

def perform (l : Logging) : LogAction → Logging
  | .install sink => (l.install sink).2
  | .log target level message => l.log target level message

def runAll (l : Logging) (as : List LogAction) : Logging :=
  as.foldl perform l

/-- The entries of a log that is not set up yet: none before the first attempt, then what that sink lets through. -/
def entriesFromStart : List LogAction → List LogEntry
  | [] => []
  | .log _ _ _ :: rest => entriesFromStart rest
  | .install s :: rest => rest.filterMap s.entry?

/-- The verbosity that callers look at is enough for the filter of the log. -/
def Covered (l : Logging) : Prop :=
  ∀ s ∈ l.sink, s.filter.bound.rank ≤ l.verbosity.rank

variable {l : Logging} {s : LogSink}

theorem install_eq_ok_iff (l : Logging) (s : LogSink) : (l.install s).1 = .ok () ↔ l.sink = none := by
  rw [install]
  cases l.sink <;> simp

@[simp] theorem sink_log (l : Logging) (target : String) (level : LogLevel) (message : String) :
    (l.log target level message).sink = l.sink := by
  rw [log]
  split
  · rfl
  · split_ifs <;> rfl

@[simp] theorem verbosity_log (l : Logging) (target : String) (level : LogLevel) (message : String) :
    (l.log target level message).verbosity = l.verbosity := by
  rw [log]
  split
  · rfl
  · split_ifs <;> rfl

theorem install_of_none (h : l.sink = none) (s : LogSink) :
    l.install s = (.ok (), { l with sink := some s, verbosity := s.filter.bound }) := by
  rw [install, h]

theorem install_of_some (h : l.sink = some s) (other : LogSink) :
    l.install other = (.error duplicateMessage, { l with verbosity := s.filter.bound.max other.filter.bound }) := by
  rw [install, h]

theorem sink_perform (h : l.sink = some s) (a : LogAction) : (l.perform a).sink = some s := by
  cases a with
  | install other => rwa [perform, install_of_some h]
  | log target level message => rwa [perform, sink_log]

theorem sink_runAll (h : l.sink = some s) (as : List LogAction) : (l.runAll as).sink = some s := by
  induction as generalizing l with
  | nil => exact h
  | cons a rest ih => exact ih (sink_perform h a)

theorem covered_install (l : Logging) (s : LogSink) : Covered (l.install s).2 := by
  cases h : l.sink with
  | none =>
    rw [install_of_none h]
    rintro _ ⟨⟩
    exact Nat.le_refl _
  | some first =>
    rw [install_of_some h]
    intro s' hs'
    obtain rfl : first = s' := Option.some.inj (h.symm.trans hs')
    exact Verbosity.rank_le_max_left _ _

theorem covered_perform (h : Covered l) (a : LogAction) : Covered (l.perform a) := by
  cases a with
  | install s => exact covered_install l s
  | log target level message => rwa [Covered, perform, sink_log, verbosity_log]

/-- Once the log is set up, an action adds the entry that the sink makes of it. -/
theorem entries_perform (hc : Covered l) (h : l.sink = some s) (a : LogAction) :
    (l.perform a).entries = l.entries ++ (s.entry? a).toList := by
  cases a with
  | install other =>
    rw [perform, install_of_some h]
    exact (List.append_nil _).symm
  | log target level message =>
    simp only [perform, log, h, LogSink.entry?]
    cases hallows : s.filter.allows target level with
    | true =>
      have hverbosity : l.verbosity.allows level = true :=
        Verbosity.allows_of_rank_le (hc s h) (s.filter.allows_bound hallows)
      rw [hverbosity]
      rfl
    | false => simp

theorem filterMap_cons_eq_append {α β : Type} (f : α → Option β) (a : α) (as : List α) :
    (a :: as).filterMap f = (f a).toList ++ as.filterMap f := by
  cases h : f a with
  | none => exact List.filterMap_cons_none h
  | some b => exact List.filterMap_cons_some h

theorem entries_runAll_of_sink (hc : Covered l) (h : l.sink = some s) (as : List LogAction) :
    (l.runAll as).entries = l.entries ++ as.filterMap s.entry? := by
  induction as generalizing l with
  | nil => exact (List.append_nil _).symm
  | cons a rest ih =>
    have hrest := ih (covered_perform hc a) (sink_perform h a)
    rw [runAll, List.foldl_cons, ← runAll, hrest, entries_perform hc h, filterMap_cons_eq_append, List.append_assoc]

/-- A log has what the filter of its first sink lets through from then on, and nothing from before. -/
theorem entries_runAll (h : l.sink = none) (as : List LogAction) :
    (l.runAll as).entries = l.entries ++ entriesFromStart as := by
  induction as with
  | nil => exact (List.append_nil _).symm
  | cons a rest ih =>
    cases a with
    | install s =>
      have hc : Covered (l.perform (.install s)) := covered_install l s
      have hinstall : l.perform (.install s) = { l with sink := some s, verbosity := s.filter.bound } := by
        rw [perform, install_of_none h]
      have hsink : (l.perform (.install s)).sink = some s := by rw [hinstall]
      rw [runAll, List.foldl_cons, ← runAll, entriesFromStart, entries_runAll_of_sink hc hsink, hinstall]
    | log target level message =>
      have hlog : l.perform (.log target level message) = l := by
        rw [perform, log, h]
      rw [runAll, List.foldl_cons, hlog, ← runAll, entriesFromStart]
      exact ih

end Logging

end Reconciliation
