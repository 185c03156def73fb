import Reconciliation.Proofs.Time.Rfc3339
import Reconciliation.Status
/-!
# Reading back a recorded status

A status is written with a time of as many places as it needs and with the name of its outcome, so the record
that is read is the record that was written, with the time that the reading settles on (`ofWritten?_toJson`). A
record that was read is settled (`settled_of_ofWritten?`).
-/

namespace Reconciliation

namespace Status

open Json (Written)

/-- The status with the time that the reading of its time settles on. -/
def settled (s : Status) : Status :=
  { s with lastUpdate := s.lastUpdate.map Instant.settled }

theorem settled_eq_self_iff {s : Status} : s.settled = s ↔ ∀ t ∈ s.lastUpdate, t.overruns = false := by
  obtain ⟨lastUpdate, reason, outcome⟩ := s
  cases lastUpdate with
  | none => simp [settled]
  | some t => simp [settled, Instant.settled_eq_self_iff]

/-! ### Reading what was written -/

theorem timeOf?_written (t : Instant) :
    timeOf? (.value (.string (t.toRfc3339 .shortest))) = some (some t.settled) := by
  rw [timeOf?, Instant.ofRfc3339?_shortest, Option.map_some]

theorem reasonOf?_written (reason : String) : reasonOf? (.value (.string reason)) = some reason := rfl

theorem outcomeOf?_written (outcome : Outcome) :
    outcomeOf? (.value (.string outcome.name)) = some outcome := by
  rw [outcomeOf?, Outcome.ofName_name]

theorem ofWritten?_object (fs : Table Json) :
    ofWritten? (.value (.object fs)) = ofFields? (fs.map fun f => (f.1, .value f.2)) := rfl

theorem ofWritten?_toJson (s : Status) : ofWritten? (.value s.toJson) = some s.settled := by
  obtain ⟨lastUpdate, reason, outcome⟩ := s
  rw [toJson, ofWritten?_object, ofFields?]
  cases lastUpdate with
  | none => simp [Written.repeats, Written.field?, fieldNames, reasonOf?_written, outcomeOf?_written, settled]
  | some t =>
    simp [Written.repeats, Written.field?, fieldNames, timeOf?_written, reasonOf?_written,
      outcomeOf?_written, settled]

/-! ### What can be read -/

theorem overruns_of_timeOf? {w : Written} {time : Option Instant} (h : timeOf? w = some time) :
    ∀ t ∈ time, t.overruns = false := by
  unfold timeOf? at h
  split at h
  · cases h
    simp
  · obtain ⟨t, ht, rfl⟩ := Option.map_eq_some_iff.1 h
    intro u hu
    cases hu
    exact Instant.overruns_of_ofRfc3339? ht
  · cases h

theorem settled_of_ofFields? {fs : List (String × Written)} {s : Status} (h : ofFields? fs = some s) :
    s.settled = s := by
  unfold ofFields? at h
  split at h
  · cases h
  · obtain ⟨time, htime, h⟩ := Option.bind_eq_some_iff.1 h
    obtain ⟨reason, -, h⟩ := Option.bind_eq_some_iff.1 h
    obtain ⟨outcome, -, h⟩ := Option.bind_eq_some_iff.1 h
    cases h
    refine settled_eq_self_iff.2 ?_
    cases hfield : Written.field? fs "lastUpdate" with
    | none =>
      rw [hfield] at htime
      cases htime
      simp
    | some w =>
      rw [hfield] at htime
      exact overruns_of_timeOf? htime

theorem settled_of_ofWritten? {w : Written} {s : Status} (h : ofWritten? w = some s) : s.settled = s := by
  unfold ofWritten? at h
  split at h
  · exact settled_of_ofFields? h
  · split at h
    · exact settled_of_ofFields? h
    · cases h
  · cases h

end Status

end Reconciliation
