import Reconciliation.Proofs.Memory.History
import Reconciliation.Proofs.Pass.Converge
import Reconciliation.Proofs.Resource.Tracked
import Reconciliation.Reconciler
/-!
# What operations send to a store

A controller brings objects to what it wants, alone, in batches or from a template, and it records how its passes
end (`Operation`). Whatever the answers are, the whole objects that an operation sends have payloads with fields,
and only the recording of an end sends a status (`Job.sends`).
-/

namespace Reconciliation

namespace Dialogue

variable {ρ : Type} {A : ρ → Type} {α β : Type} {P Q : ρ → Prop}

/-- Every question of a dialogue has a property, whatever the answers before it are. -/
def Always (P : ρ → Prop) : Dialogue A α → Prop
  | done _ => True
  | ask r next => P r ∧ ∀ a, Always P (next a)

theorem always_andThen {d : Dialogue A α} {f : α → Dialogue A β} (hd : Always P d)
    (hf : ∀ a, Always P (f a)) : Always P (andThen d f) := by
  induction d with
  | done a => exact hf a
  | ask r next ih => exact ⟨hd.1, fun a => ih a (hd.2 a)⟩

theorem Always.mono {d : Dialogue A α} (hd : Always P d) (h : ∀ r, P r → Q r) : Always Q d := by
  induction d with
  | done a => trivial
  | ask r next ih => exact ⟨h r hd.1, fun a => ih a (hd.2 a)⟩

end Dialogue

namespace Pass

variable {α β : Type} (clock : Instant)

theorem calls_andThen (p : Pass α) (f : α → Pass β) :
    calls clock (Dialogue.andThen p f) = Dialogue.andThen (p.calls clock) fun a => (f a).calls clock := by
  induction p with
  | done a => rfl
  | ask e next ih =>
    cases e with
    | store c => exact congrArg (Dialogue.ask c) (funext fun a => ih a)
    | notify n => exact ih ()
    | now => exact ih clock
    | measure m => exact ih ()

/-- Every call of a pass has a property, whatever the answers to its calls are. -/
def Sends (P : StoreCall → Prop) (p : Pass α) : Prop :=
  Dialogue.Always P (p.calls clock)

variable {clock} {P : StoreCall → Prop}

theorem sends_done (a : α) : Sends clock P (.done a) := trivial

theorem sends_andThen {p : Pass α} {f : α → Pass β} (hp : p.Sends clock P) (hf : ∀ a, (f a).Sends clock P) :
    Sends clock P (Dialogue.andThen p f) := by
  rw [Sends, calls_andThen]
  exact Dialogue.always_andThen hp hf

theorem sends_call {c : StoreCall} (h : P c) : (call c).Sends clock P :=
  ⟨h, fun _ => trivial⟩

theorem sends_measure (m : Measurement) : (measure m).Sends clock P := trivial

end Pass

/-- Of the calls whose objects have payloads with fields, those that write no status or the given one. -/
def StoreCall.Carries (recorded : Option Status) : StoreCall → Prop
  | updateStatus o => ∃ s, recorded = some s ∧ o.status? = some s.field
  | c => c.BringsFields

namespace Synchronize

open Pass

variable {clock : Instant} {recorded : Option Status}

theorem hasFields_of_identify {o : ManagedObject} {k : ObjectKey} {d : DynamicObject}
    (h : identify o = .ok (k, d)) : d.HasFields := by
  obtain ⟨-, -, hfields⟩ := ManagedObject.toDynamic_ok (identify_eq_ok.1 h).2
  exact hfields

theorem sends_finish (operation outcome : String) (o : ManagedObject) (r : Except ReconcileError Unit) :
    (finish operation outcome o r).Sends clock (StoreCall.Carries recorded) := trivial

theorem sends_converge (p : Placement) (o : ManagedObject) :
    (converge p o).Sends clock (StoreCall.Carries recorded) := by
  cases hid : identify (prepare p o) with
  | error e =>
    simp only [converge, hid]
    exact sends_done _
  | ok found =>
    obtain ⟨k, d⟩ := found
    have hd : d.HasFields := hasFields_of_identify hid
    rw [Sends, calls_converge hid]
    refine ⟨trivial, fun answer => ?_⟩
    cases answer with
    | ok stored => exact ⟨hd, fun _ => trivial⟩
    | error e =>
      rw [afterLookup]
      split_ifs
      · exact ⟨hd, fun _ => trivial⟩
      · trivial

theorem sends_ensurePresent (p : Placement) (o : ManagedObject) :
    (ensurePresent p o).Sends clock (StoreCall.Carries recorded) := by
  cases hid : identify (prepare p o) with
  | error e =>
    simp only [ensurePresent, hid]
    exact sends_done _
  | ok found =>
    obtain ⟨k, d⟩ := found
    simp only [ensurePresent, hid]
    refine sends_andThen (sends_call (hasFields_of_identify hid)) fun answer => ?_
    cases answer with
    | ok created => exact sends_finish _ _ _ _
    | error e =>
      dsimp only
      split_ifs <;> exact sends_finish _ _ _ _

theorem sends_ensureAbsent (o : ManagedObject) :
    (ensureAbsent o).Sends clock (StoreCall.Carries recorded) := by
  cases hid : identify o with
  | error e =>
    simp only [ensureAbsent, hid]
    exact sends_done _
  | ok found =>
    obtain ⟨k, d⟩ := found
    simp only [ensureAbsent, hid]
    refine sends_andThen (sends_call trivial) fun answer => ?_
    cases answer with
    | ok => exact sends_finish _ _ _ _
    | error e =>
      dsimp only
      split_ifs <;> exact sends_finish _ _ _ _

theorem sends_batch {operation : ManagedObject → Pass (ManagedObject × Except ReconcileError Unit)}
    {P : StoreCall → Prop} (h : ∀ o, (operation o).Sends clock P) (os : List ManagedObject) :
    (batch operation os).Sends clock P := by
  induction os with
  | nil => exact sends_done _
  | cons o rest ih =>
    refine sends_andThen (h o) fun result => ?_
    obtain ⟨o', r⟩ := result
    cases r with
    | error e => exact sends_done _
    | ok => exact sends_andThen ih fun _ => sends_done _

theorem sends_onRendered {t : Template} {data : Json} {P : StoreCall → Prop}
    {operation : List ManagedObject → Pass (List ManagedObject × Except ReconcileError Unit)}
    (h : ∀ os, (operation os).Sends clock P) : (onRendered t data operation).Sends clock P := by
  unfold onRendered
  split
  · exact sends_done _
  · exact sends_andThen (h _) fun _ => sends_done _

end Synchronize

namespace Conclusion

open Pass

variable {clock : Instant} {P : StoreCall → Prop} {o : ManagedObject}

theorem sends_finish (outcome : String) (o : ManagedObject) (delay : Duration) :
    (finish outcome o delay).Sends clock P := trivial

/-- A status write makes one call at most, with the written form of the object and its status. -/
theorem sends_writeStatus {s : Status} (h : ∀ d, (o.withStatus s).toDynamic = .ok d → P (.updateStatus d)) :
    (writeStatus o s).Sends clock P := by
  unfold writeStatus
  by_cases ho : o.tracksStatus = true
  · simp only [ho, Bool.not_true, Bool.false_eq_true, if_false]
    cases hd : (o.withStatus s).toDynamic with
    | error e => exact sends_done _
    | ok d =>
      refine sends_andThen (sends_call (h d hd)) fun answer => ?_
      cases answer with
      | ok stored => exact sends_done _
      | error e => exact sends_andThen (sends_measure _) fun _ => sends_done _
  · simp only [ho, Bool.not_false, if_true]
    exact sends_done _

theorem sends_notify {α : Type} {n : Notice} {next : Unit → Pass α}
    (h : (next ()).Sends clock P) : Sends clock P (Dialogue.andThen (notify n) next) := h

theorem sends_now {α : Type} {next : Instant → Pass α}
    (h : (next clock).Sends clock P) : Sends clock P (Dialogue.andThen now next) := h

theorem sends_recordFailure (b : Backoff) {message : String}
    (h : ∀ d, o.tracksStatus = true → (o.withStatus (.failure clock message)).toDynamic = .ok d →
      P (.updateStatus d)) :
    (recordFailure b o message).Sends clock P := by
  unfold recordFailure
  cases ObjectReference.of o with
  | error e => exact sends_done _
  | ok reference =>
    refine sends_notify (sends_now ?_)
    cases hstatus : o.status? with
    | none => exact sends_finish _ _ _
    | some previous =>
      have ho : o.tracksStatus = true := ManagedObject.tracksStatus_of_status? hstatus
      refine sends_andThen (sends_writeStatus fun d => h d ho) fun written => ?_
      obtain ⟨o', r⟩ := written
      cases r <;> exact sends_finish _ _ _

theorem sends_recordSuccess (b : Backoff)
    (h : ∀ d, o.tracksStatus = true → (o.withStatus (.success clock)).toDynamic = .ok d → P (.updateStatus d)) :
    (recordSuccess b o).Sends clock P := by
  unfold recordSuccess
  cases ObjectReference.of o with
  | error e => exact sends_done _
  | ok reference =>
    cases ho : o.tracksStatus with
    | false => exact sends_andThen (sends_measure _) fun _ => sends_done _
    | true =>
      refine sends_now (sends_andThen (sends_writeStatus fun d => h d ho) fun written => ?_)
      obtain ⟨o', r⟩ := written
      cases r with
      | error e => exact sends_finish _ _ _
      | ok => exact sends_andThen (sends_measure _) fun _ => sends_done _

end Conclusion

/-- What a controller does with the objects that it manages. -/
inductive Operation where
  | converge (owner : Option ManagedObject) (nameSpace : Option String) (o : ManagedObject)
  | ensurePresent (owner : Option ManagedObject) (nameSpace : Option String) (o : ManagedObject)
  | ensureAbsent (o : ManagedObject)
  | convergeAll (owner : Option ManagedObject) (nameSpace : Option String) (os : List ManagedObject)
  | ensureAllPresent (owner : Option ManagedObject) (nameSpace : Option String) (os : List ManagedObject)
  | ensureAllAbsent (os : List ManagedObject)
  | convergeRendered (owner : Option ManagedObject) (nameSpace : Option String) (t : Template) (data : Json)
  | ensureRenderedPresent (owner : Option ManagedObject) (nameSpace : Option String) (t : Template) (data : Json)
  | ensureRenderedAbsent (nameSpace : Option String) (t : Template) (data : Json)
  | recordFailure (o : ManagedObject) (message : String)
  | recordSuccess (o : ManagedObject)

/-- The object of a recording. -/
def Operation.recorded? : Operation → Option ManagedObject
  | recordFailure o _ | recordSuccess o => some o
  | _ => none

/-- The pass of an operation, its result left out. -/
def Operation.pass (r : Reconciler) : Operation → Pass Unit
  | converge owner nameSpace o => do let _ ← r.converge owner nameSpace o
  | ensurePresent owner nameSpace o => do let _ ← r.ensurePresent owner nameSpace o
  | ensureAbsent o => do let _ ← Synchronize.ensureAbsent o
  | convergeAll owner nameSpace os => do let _ ← r.convergeAll owner nameSpace os
  | ensureAllPresent owner nameSpace os => do let _ ← r.ensureAllPresent owner nameSpace os
  | ensureAllAbsent os => do let _ ← Synchronize.ensureAllAbsent os
  | convergeRendered owner nameSpace t data => do let _ ← r.convergeRendered owner nameSpace t data
  | ensureRenderedPresent owner nameSpace t data => do let _ ← r.ensureRenderedPresent owner nameSpace t data
  | ensureRenderedAbsent nameSpace t data => do let _ ← Synchronize.ensureRenderedAbsent nameSpace t data
  | recordFailure o message => do let _ ← r.recordFailure o message
  | recordSuccess o => do let _ ← r.recordSuccess o

/-- An operation of a reconciler at some time. -/
structure Job where
  reconciler : Reconciler
  clock : Instant
  operation : Operation

namespace Job

open Pass Synchronize Conclusion

/-- The store calls of a job. -/
def calls (j : Job) : Dialogue StoreCall.Answer Unit :=
  (j.operation.pass j.reconciler).calls j.clock

/-- The status that a job records, if it records the end of a pass. -/
def recorded? (j : Job) : Option Status :=
  match j.operation with
  | .recordFailure _ message => some (.failure j.clock message)
  | .recordSuccess _ => some (.success j.clock)
  | _ => none

theorem sends_discard {α : Type} {clock : Instant} {P : StoreCall → Prop} {p : Pass α}
    (h : p.Sends clock P) : Pass.Sends clock P (do let _ ← p) :=
  sends_andThen h fun _ => sends_done _

/-- A job brings payloads with fields, and a recording sends the object with the status that it records. -/
theorem sends_of (j : Job) {P : StoreCall → Prop} (hfields : ∀ c, c.Carries none → P c)
    (hrecorded : ∀ o s d, j.operation.recorded? = some o → j.recorded? = some s → o.tracksStatus = true →
      (o.withStatus s).toDynamic = .ok d → P (.updateStatus d)) : Dialogue.Always P j.calls := by
  obtain ⟨r, clock, operation⟩ := j
  have hsends : ∀ {p : Pass Unit}, p.Sends clock (StoreCall.Carries none) → p.Sends clock P := fun h => h.mono hfields
  cases operation with
  | converge owner nameSpace o => exact hsends (sends_discard (sends_converge _ o))
  | ensurePresent owner nameSpace o => exact hsends (sends_discard (sends_ensurePresent _ o))
  | ensureAbsent o => exact hsends (sends_discard (sends_ensureAbsent o))
  | convergeAll owner nameSpace os => exact hsends (sends_discard (sends_batch (sends_converge _) os))
  | ensureAllPresent owner nameSpace os => exact hsends (sends_discard (sends_batch (sends_ensurePresent _) os))
  | ensureAllAbsent os => exact hsends (sends_discard (sends_batch sends_ensureAbsent os))
  | convergeRendered owner nameSpace t data =>
    exact hsends (sends_discard (sends_onRendered fun os => sends_batch (sends_converge _) os))
  | ensureRenderedPresent owner nameSpace t data =>
    exact hsends (sends_discard (sends_onRendered fun os => sends_batch (sends_ensurePresent _) os))
  | ensureRenderedAbsent nameSpace t data =>
    exact hsends (sends_discard (sends_onRendered fun os => sends_batch sends_ensureAbsent _))
  | recordFailure o message => exact sends_discard (sends_recordFailure _ fun d => hrecorded o _ d rfl rfl)
  | recordSuccess o => exact sends_discard (sends_recordSuccess _ fun d => hrecorded o _ d rfl rfl)

end Job

end Reconciliation
