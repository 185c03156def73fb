import Reconciliation.Backoff
import Reconciliation.Proofs.Json.Reader
import Reconciliation.Proofs.Memory.History
import Reconciliation.Proofs.Resource.Tracked
/-!
# Statuses that are read again

A status comes back from its text as it was written, and so it does from a store that keeps it with an object
(`reread`). The text is an object of texts, since the time and the outcome are written as texts too. So the delay
after a failure does not hang on where the status before it was kept in the meantime.

The exception is a time that counts on a second before the end of its minute. It is written as the next second, and
this is what comes back (`ofText?_countedOn`).
-/

namespace Reconciliation

namespace Status

/-- What is written of a status. -/
def texts (s : Status) : Table String :=
  (s.lastUpdate.map fun t => ("lastUpdate", t.toRfc3339 .shortest)).toList ++
    [("reason", s.reason), ("status", s.outcome.name)]

theorem toJson_eq (s : Status) : s.toJson = .ofTexts s.texts := by
  obtain ⟨lastUpdate, reason, outcome⟩ := s
  cases lastUpdate <;> rfl

theorem ofText?_toText (s : Status) : ofText? s.toText = some s.settled := by
  have hne : s.texts ≠ [] := List.append_ne_nil_of_right_ne_nil _ (List.cons_ne_nil _ _)
  have hwritten : ofWritten? (.object (s.texts.map fun f => (f.1, .value (.string f.2)))) =
      ofWritten? (.value (.ofTexts s.texts)) := by
    simp only [ofWritten?, Json.Written.fields?, Json.ofTexts, List.map_map, Function.comp_def]
  rw [ofText?, toText, toJson_eq, Json.ofText?_ofTexts hne, Option.bind_some, hwritten, ← toJson_eq,
    ofWritten?_toJson]

theorem settled_of_ofText? {text : String} {s : Status} (h : ofText? text = some s) : s.settled = s := by
  obtain ⟨w, -, hs⟩ := Option.bind_eq_some_iff.1 h
  exact settled_of_ofWritten? hs

/-- The status that a write brings is found in the store afterwards, as its text would be read. -/
theorem recorded?_restatedObject (s : Status) {o : ManagedObject} (ho : o.tracksStatus = true) (hw : o.Writable)
    (old : DynamicObject) (fs : Table Json) (version : String) :
    ∃ d, (o.withStatus s).toDynamic = .ok d ∧
      recorded? (Memory.restatedObject { old with data := .object fs } d version).status? = some s.settled := by
  obtain ⟨d, hd⟩ := (o.writable_withStatus s).2 hw
  refine ⟨d, hd, ?_⟩
  rw [(Memory.status?_restatedObject_iff _ _ version).2 (.inl ⟨fs, rfl⟩),
    ManagedObject.status?_toDynamic_withStatus ho hd, recorded?_field]

/-- A status whose time overruns no second is the same after it was written and read again, be it as a text or with a
stored object, and so is the delay that is reckoned from it. A time that does overrun its second is read as the next
one. What any text is read as is read again from the text that it is written as. -/
theorem reread :
    (∀ s : Status, (∀ t ∈ s.lastUpdate, t.overruns = false) → ofText? s.toText = some s ∧
      ∀ (b : Backoff) (now : Instant), b.requeueDelay now (ofText? s.toText) = b.requeueDelay now (some s)) ∧
    (∀ (s : Status) (t : Instant), s.lastUpdate = some t → t.overruns = true →
      ∃ u : Instant, ofText? s.toText = some { s with lastUpdate := some u } ∧ u.seconds = t.seconds + 1 ∧
        u.nanos = t.nanos - nanosPerSecond) ∧
    (∀ (s : Status) (o : ManagedObject) (old : DynamicObject) (fs : Table Json) (version : String),
      o.tracksStatus = true → o.Writable → ∃ d, (o.withStatus s).toDynamic = .ok d ∧
        let restored := recorded? (Memory.restatedObject { old with data := .object fs } d version).status?
        restored = ofText? s.toText ∧ ((∀ t ∈ s.lastUpdate, t.overruns = false) → restored = some s ∧
          ∀ (b : Backoff) (now : Instant), b.requeueDelay now restored = b.requeueDelay now (some s))) ∧
    ∀ text : String, (ofText? text).bind (fun s => ofText? s.toText) = ofText? text := by
  have hsame : ∀ s : Status, (∀ t ∈ s.lastUpdate, t.overruns = false) → ofText? s.toText = some s := by
    intro s hs
    rw [ofText?_toText, settled_eq_self_iff.2 hs]
  refine ⟨fun s hs => ⟨hsame s hs, fun b now => by rw [hsame s hs]⟩, ?_, ?_, ?_⟩
  · intro s t hlast hover
    obtain ⟨hseconds, hnanos⟩ := Instant.settled_of_overruns hover
    refine ⟨t.settled, ?_, hseconds, hnanos⟩
    rw [ofText?_toText, settled, hlast, Option.map_some]
  · intro s o old fs version ho hw
    obtain ⟨d, hd, hrestored⟩ := recorded?_restatedObject s ho hw old fs version
    refine ⟨d, hd, hrestored.trans (ofText?_toText s).symm, fun hs => ?_⟩
    rw [hrestored, settled_eq_self_iff.2 hs]
    exact ⟨rfl, fun b now => rfl⟩
  · intro text
    cases h : ofText? text with
    | none => rfl
    | some s => rw [Option.bind_some, ofText?_toText, settled_of_ofText? h]

/-- Half of the leap second at the end of 2016. -/
def leapSecond : Instant := ⟨1483228799, 1500000000, by decide, by decide, by decide⟩

/-- Noon of the first of May 2024, when a clock has counted on for another second and a half. -/
def countedOn : Instant := ⟨1714564800, 1500000000, by decide, by decide, by decide⟩

theorem reread_leapSecond :
    ofText? (failure leapSecond "no \"disk\"").toText = some (failure leapSecond "no \"disk\"") ∧
      (∃ u : Instant, ofText? (failure countedOn "no \"disk\"").toText = some (failure u "no \"disk\"") ∧
        u.seconds = 1714564801 ∧ u.nanos = 500000000) ∧
      ∃ d, ((ManagedObject.registry ⟨{ name := some "registry" }, 3, none⟩).withStatus (.success leapSecond)).toDynamic =
          .ok d ∧
        recorded? (Memory.restatedObject ⟨none, {}, .object []⟩ d "2").status? = some (.success leapSecond) := by
  obtain ⟨htext, hover, hstored, -⟩ := reread
  have hleap : ∀ t ∈ some leapSecond, t.overruns = false := by decide
  obtain ⟨d, hd, -, hrestored⟩ := hstored (.success leapSecond)
    (.registry ⟨{ name := some "registry" }, 3, none⟩) ⟨none, {}, .object []⟩ [] "2" rfl
    ⟨_, ManagedObject.toDynamic_tracked rfl⟩
  obtain ⟨u, hread, hseconds, hnanos⟩ := hover (failure countedOn "no \"disk\"") countedOn rfl (by decide)
  exact ⟨(htext (.failure leapSecond "no \"disk\"") hleap).1, ⟨u, hread, hseconds, hnanos⟩, d, hd, (hrestored hleap).1⟩

/-- A quote is written behind a mark. -/
example : (failure leapSecond "no \"disk\"").toText =
    "\x7b\"lastUpdate\":\"2016-12-31T23:59:60.500Z\",\"reason\":\"no \\\"disk\\\"\",\"status\":\"Failure\"\x7d" := by
  decide

/-- A time that was counted on at noon is written as a time in the next second, and read as that time. -/
theorem ofText?_countedOn :
    (success countedOn).toText =
        "\x7b\"lastUpdate\":\"2024-05-01T12:00:01.500Z\",\"reason\":\"\",\"status\":\"Success\"\x7d" ∧
      ofText? (success countedOn).toText =
        some (success ⟨1714564801, 500000000, by decide, by decide, by decide⟩) ∧
      ofText? (success countedOn).toText ≠ some (success countedOn) := by
  rw [ofText?_toText]
  decide

end Status

end Reconciliation
