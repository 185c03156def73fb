import Reconciliation.Proofs.Metrics
import Reconciliation.Proofs.Pass.Batch
import Reconciliation.Proofs.Pass.Courses
import Reconciliation.Proofs.Pass.Effects
import Reconciliation.Proofs.Pass.Sends
/-!
# Metrics as an account

Whatever a controller asks for is an operation on some objects, one after the other and up to the first failure, or the
recording of how a pass ended (`Work`). Its account says which operations on single objects were attempted and how each
of them ended, what each recording told the scheduler, and how the store answered each status write. The metrics are
read off it: of the operations each one is counted once, unless it was refused, and of the recordings each one of an
identified object (`Account.Explains`). This holds of one operation in any surroundings (`Job.explains_account`) and so
of any number of them over any store (`Job.metrics_explained`).
-/

namespace Reconciliation

open Dialogue (Yields run log)

namespace Pass

/-- The measurements of a log. -/
def measured (l : List ((e : Effect) × e.Answer)) : Metrics :=
  l.filterMap fun
    | ⟨.measure m, _⟩ => some m
    | _ => none

/-- The answers to the status writes of a log. -/
def statusAnswers (l : List ((e : Effect) × e.Answer)) : List (Except StoreError DynamicObject) :=
  l.filterMap fun
    | ⟨.store (.updateStatus _), answer⟩ => some answer
    | _ => none

theorem metrics_run {σ α : Type} (store : Store σ) (p : Pass α) (s : Surroundings σ) :
    (Surroundings.run store p s).2.metrics = s.metrics ++ measured (log (Surroundings.respond store) p s) := by
  induction p generalizing s with
  | done a => exact (List.append_nil _).symm
  | ask e next ih =>
    cases e with
    | store c => exact ih (store c s.store).1 { s with store := (store c s.store).2 }
    | notify n => exact ih () { s with notices := s.notices ++ [n] }
    | now => exact ih s.clock s
    | measure m =>
      have hrest := ih () { s with metrics := s.metrics ++ [m] }
      rw [List.append_assoc] at hrest
      exact hrest

end Pass

/-! ### Accounts -/

/-- What was attempted and what came of it. -/
structure Account where
  /-- The operations on single objects, each with its label and its result. -/
  attempts : List (String × Except ReconcileError Unit) := []
  /-- The recorded objects, each with what the scheduler was told. -/
  conclusions : List (ManagedObject × Requeue) := []
  statusAnswers : List (Except StoreError DynamicObject) := []

namespace Account

instance : Append Account where
  append a b := ⟨a.attempts ++ b.attempts, a.conclusions ++ b.conclusions, a.statusAnswers ++ b.statusAnswers⟩

/-- An operation was refused, for the object that it was asked for. -/
def refused : Except ReconcileError Unit → Bool
  | .error (.typeMismatch _) => true
  | _ => false

/-- The results of the operations of one label that were not refused. -/
def performed (a : Account) (label : String) : List (Except ReconcileError Unit) :=
  (a.attempts.filter fun x => x.1 == label && !refused x.2).map Prod.snd

/-- How many of the recorded objects are identified. -/
def identified (a : Account) : Nat :=
  a.conclusions.countP fun c => (ObjectKey.of c.1).isOk

/-- How often the scheduler was told to come back. -/
def requeued (a : Account) : Nat :=
  a.conclusions.countP fun c => c.2.requeue

def refusedWrites (a : Account) : Nat :=
  a.statusAnswers.countP fun answer => !answer.isOk

/-- An outcome that is counted for a result: it is the one of errors exactly if the store failed. -/
def OutcomeOf (r : Except ReconcileError Unit) (outcome : String) : Prop :=
  outcome = "error" ↔ ∃ e, r = .error (.store e)

/-- The measurements are those that an account gives cause for, each once. -/
structure Explains (a : Account) (ms : Metrics) : Prop where
  outcomes : ∀ label, List.Forall₂ OutcomeOf (a.performed label) (ms.outcomes label)
  results : ms.results.length = a.identified
  delays : ms.delays.length = a.requeued
  failures : ms.statusWriteFailures = a.refusedWrites

variable {a b : Account} {ms ms' : Metrics}

theorem performed_append (a b : Account) (label : String) :
    (a ++ b).performed label = a.performed label ++ b.performed label := by
  simp only [performed, ← List.map_append, ← List.filter_append]
  rfl

theorem explains_nil : Explains {} [] := ⟨fun _ => .nil, rfl, rfl, rfl⟩

theorem Explains.append (ha : a.Explains ms) (hb : b.Explains ms') : (a ++ b).Explains (ms ++ ms') where
  outcomes := by
    intro label
    rw [performed_append, Metrics.outcomes_append]
    exact List.rel_append (ha.outcomes label) (hb.outcomes label)
  results := by
    rw [Metrics.results_append, List.length_append, ha.results, hb.results]
    exact List.countP_append.symm
  delays := by
    rw [Metrics.delays_append, List.length_append, ha.delays, hb.delays]
    exact List.countP_append.symm
  failures := by
    rw [Metrics.statusWriteFailures_append, ha.failures, hb.failures]
    exact List.countP_append.symm

end Account

/-! ### Operations on one object -/

/-- The measurements of an operation on one object, by its label and its result. -/
inductive Counted (label : String) : Except ReconcileError Unit → Metrics → Prop where
  | refused (cause : ResourceError) : Counted label (.error (.typeMismatch cause)) []
  | failed (e : StoreError) : Counted label (.error (.store e)) [.operation label "error"]
  | done (outcome : String) (h : outcome ≠ "error") : Counted label (.ok ()) [.operation label outcome]

/-- An operation that was performed is counted with its outcome, for its own label alone. -/
theorem Account.forall_outcomeOf {label outcome : String} {r : Except ReconcileError Unit} (hr : refused r = false)
    (houtcome : OutcomeOf r outcome) (other : String) :
    List.Forall₂ OutcomeOf (performed { attempts := [(label, r)] } other)
      (Metrics.outcomes [.operation label outcome] other) := by
  by_cases hlabel : label = other
  · simpa [performed, Metrics.outcomes, hlabel, hr] using houtcome
  · simp [performed, Metrics.outcomes, hlabel]

theorem Counted.explains {label : String} {r : Except ReconcileError Unit} {ms : Metrics} (h : Counted label r ms) :
    Account.Explains { attempts := [(label, r)] } ms := by
  cases h with
  | refused cause =>
    refine ⟨fun other => ?_, rfl, rfl, rfl⟩
    simp [Account.performed, Account.refused, Metrics.outcomes]
  | failed e =>
    have houtcome : Account.OutcomeOf (.error (.store e)) "error" := iff_of_true rfl ⟨e, rfl⟩
    exact ⟨Account.forall_outcomeOf rfl houtcome, rfl, rfl, rfl⟩
  | done outcome h =>
    have houtcome : Account.OutcomeOf (.ok ()) outcome := iff_of_false h (by simp)
    exact ⟨Account.forall_outcomeOf rfl houtcome, rfl, rfl, rfl⟩

namespace Synchronize

open Pass

/-- An operation on one object is counted once with its result, and writes no status. -/
def Tallied (label : String) (l : List ((e : Effect) × e.Answer)) (r : ManagedObject × Except ReconcileError Unit) :
    Prop :=
  Counted label r.2 (measured l) ∧ statusAnswers l = []

theorem counted_write {label done : String} (h : done ≠ "error") (o : ManagedObject)
    (answer : Except StoreError DynamicObject) :
    Counted label (afterWrite o answer).2 [.operation label (writeOutcome done answer)] := by
  cases answer with
  | ok written => exact .done done h
  | error e => exact .failed e

theorem counted_creation {label : String} (o : ManagedObject) (answer : Except StoreError DynamicObject) :
    Counted label (afterCreation o answer).2 [.operation label (creationOutcome answer)] := by
  cases answer with
  | ok created => exact .done "created" (by decide)
  | error e =>
    rw [afterCreation, creationOutcome]
    split_ifs
    · exact .done "exists" (by decide)
    · exact .failed e

theorem counted_deletion {label : String} (answer : Except StoreError Unit) :
    Counted label (afterDeletion answer) [.operation label (deletionOutcome answer)] := by
  cases answer with
  | ok => exact .done "deleted" (by decide)
  | error e =>
    rw [afterDeletion, deletionOutcome]
    split_ifs
    · exact .done "absent" (by decide)
    · exact .failed e

theorem tallied_converge (p : Placement) (o : ManagedObject) :
    Yields (Tallied "create_or_update") (converge p o) := by
  refine (yields_converge p o).mono fun l r h => ?_
  cases h with
  | refused => exact ⟨.refused _, rfl⟩
  | found _ stored answer => exact ⟨counted_write (by decide) _ answer, rfl⟩
  | missing _ _ answer => exact ⟨counted_write (by decide) _ answer, rfl⟩
  | unread => exact ⟨.failed _, rfl⟩

theorem tallied_ensurePresent (p : Placement) (o : ManagedObject) :
    Yields (Tallied "create_if_not_exists") (ensurePresent p o) := by
  refine (yields_ensurePresent p o).mono fun l r h => ?_
  cases h with
  | refused => exact ⟨.refused _, rfl⟩
  | answered _ answer => exact ⟨counted_creation _ answer, rfl⟩

theorem tallied_ensureAbsent (o : ManagedObject) : Yields (Tallied "delete") (ensureAbsent o) := by
  refine (yields_ensureAbsent o).mono fun l r h => ?_
  cases h with
  | refused => exact ⟨.refused _, rfl⟩
  | answered _ answer => exact ⟨counted_deletion answer, rfl⟩

/-- The results of the operations that a batch attempts: on each object in turn, up to the first failure. -/
def attempts {σ : Type} (respond : Dialogue.Responder Effect.Answer σ)
    (operation : ManagedObject → Pass (ManagedObject × Except ReconcileError Unit)) :
    List ManagedObject → σ → List (Except ReconcileError Unit)
  | [], _ => []
  | o :: os, s =>
    let first := run respond (operation o) s
    first.1.2 :: match first.1.2 with
      | .error _ => []
      | .ok () => attempts respond operation os first.2

theorem explains_batch {σ : Type} (respond : Dialogue.Responder Effect.Answer σ) {label : String}
    {operation : ManagedObject → Pass (ManagedObject × Except ReconcileError Unit)}
    (h : ∀ o, Yields (Tallied label) (operation o)) (os : List ManagedObject) (s : σ) :
    Account.Explains
      { attempts := (attempts respond operation os s).map (label, ·)
        statusAnswers := statusAnswers (log respond (batch operation os) s) }
      (measured (log respond (batch operation os) s)) := by
  induction os generalizing s with
  | nil => exact Account.explains_nil
  | cons o os ih =>
    obtain ⟨hcounted, hanswers⟩ := (h o).run respond s
    rw [attempts]
    cases hr : (run respond (operation o) s).1.2 with
    | error e =>
      obtain ⟨-, hlog⟩ := run_batch_of_error os hr
      rw [hlog, hanswers]
      rw [hr] at hcounted
      exact hcounted.explains
    | ok =>
      obtain ⟨-, hlog⟩ := run_batch_of_ok os hr
      rw [hr] at hcounted
      rw [hlog, measured, statusAnswers, List.filterMap_append, List.filterMap_append]
      have hboth := hcounted.explains.append (ih (run respond (operation o) s).2)
      simp only [statusAnswers] at hanswers
      rw [hanswers]
      exact hboth

end Synchronize

namespace Conclusion

open Pass

/-- The recording of the end of a pass of an object is accounted for. -/
def Recorded (o : ManagedObject) (l : List ((e : Effect) × e.Answer)) (r : ManagedObject × Requeue) : Prop :=
  Account.Explains { conclusions := [(o, r.2)], statusAnswers := statusAnswers l } (measured l)

variable {o : ManagedObject} {k : ObjectKey}

/-- What a recording of an identified object has to measure. -/
theorem explains_of_identified {requeue : Requeue} {answers : List (Except StoreError DynamicObject)} {ms : Metrics}
    (hk : ObjectKey.of o = .ok k) (houtcomes : ∀ label, ms.outcomes label = []) (hresults : ms.results.length = 1)
    (hdelays : ms.delays.length = if requeue.requeue then 1 else 0)
    (hfailures : ms.statusWriteFailures = answers.countP fun answer => !answer.isOk) :
    Account.Explains { conclusions := [(o, requeue)], statusAnswers := answers } ms where
  outcomes := by
    intro label
    rw [houtcomes]
    exact .nil
  results := by
    rw [hresults, Account.identified, List.countP_singleton, hk]
    rfl
  delays := by
    rw [hdelays, Account.requeued, List.countP_singleton]
  failures := hfailures

theorem recorded_of_unidentified {e : ResourceError} (hk : ObjectKey.of o = .error e) :
    Recorded o [] (o, .done) where
  outcomes := fun _ => .nil
  results := by
    rw [Account.identified, List.countP_singleton, hk]
    rfl
  delays := rfl
  failures := rfl

theorem recorded_recordFailure (b : Backoff) (o : ManagedObject) (message : String) :
    Yields (Recorded o) (recordFailure b o message) := by
  cases hk : ObjectKey.of o with
  | error e =>
    rw [(recordings_of_unidentified hk b message).1]
    exact yields_done (recorded_of_unidentified hk)
  | ok k =>
    refine (yields_exactFailure hk b message).mono ?_
    rintro log result ⟨now, written, writing, hwritten, rfl, rfl⟩
    cases hwritten with
    | untracked | unwritable => exact explains_of_identified hk (fun _ => rfl) rfl rfl rfl
    | answered _ _ answer => cases answer <;> exact explains_of_identified hk (fun _ => rfl) rfl rfl rfl

theorem recorded_recordSuccess (b : Backoff) (o : ManagedObject) : Yields (Recorded o) (recordSuccess b o) := by
  cases hk : ObjectKey.of o with
  | error e =>
    rw [(recordings_of_unidentified hk b "").2]
    exact yields_done (recorded_of_unidentified hk)
  | ok k =>
    refine (yields_exactSuccess hk b).mono ?_
    rintro log result ⟨now, written, writing, hwritten, rfl, rfl⟩
    cases hwritten with
    | untracked tracks | unwritable tracks =>
      rw [tracks]
      exact explains_of_identified hk (fun _ => rfl) rfl rfl rfl
    | answered tracks _ answer =>
      rw [tracks]
      cases answer <;> exact explains_of_identified hk (fun _ => rfl) rfl rfl rfl

theorem recorded_conclude (r : Reconciler) (o : ManagedObject) (failure : Option String) :
    Yields (Recorded o) (r.conclude o failure) := by
  cases failure with
  | none => exact recorded_recordSuccess r.backoff o
  | some message => exact recorded_recordFailure r.backoff o message

end Conclusion

/-! ### Operations of a controller -/

/-- An operation of the synchronizer on one object. -/
inductive Task where
  | converge (owner : Option ManagedObject) (nameSpace : Option String)
  | ensurePresent (owner : Option ManagedObject) (nameSpace : Option String)
  | ensureAbsent

namespace Task

/-- The label under which a task is counted. -/
def label : Task → String
  | converge _ _ => "create_or_update"
  | ensurePresent _ _ => "create_if_not_exists"
  | ensureAbsent => "delete"

def pass (r : Reconciler) : Task → ManagedObject → Pass (ManagedObject × Except ReconcileError Unit)
  | converge owner nameSpace => r.converge owner nameSpace
  | ensurePresent owner nameSpace => r.ensurePresent owner nameSpace
  | ensureAbsent => Synchronize.ensureAbsent

theorem tallied_pass (r : Reconciler) (t : Task) (o : ManagedObject) :
    Yields (Synchronize.Tallied t.label) (t.pass r o) := by
  cases t with
  | converge owner nameSpace => exact Synchronize.tallied_converge _ o
  | ensurePresent owner nameSpace => exact Synchronize.tallied_ensurePresent _ o
  | ensureAbsent => exact Synchronize.tallied_ensureAbsent o

end Task

/-- What a controller asks for: a task on objects in turn, up to the first failure, or the recording of how a pass
ended. -/
inductive Work where
  | each (task : Task) (os : List ManagedObject)
  | conclude (o : ManagedObject) (failure : Option String)

/-- The objects of a template, none if it cannot be rendered. -/
def Template.objects (t : Template) (data : Json) : List ManagedObject :=
  match t.resources data with
  | .error _ => []
  | .ok os => os.map .dynamic

def Operation.work : Operation → Work
  | converge owner nameSpace o => .each (.converge owner nameSpace) [o]
  | ensurePresent owner nameSpace o => .each (.ensurePresent owner nameSpace) [o]
  | ensureAbsent o => .each .ensureAbsent [o]
  | convergeAll owner nameSpace os => .each (.converge owner nameSpace) os
  | ensureAllPresent owner nameSpace os => .each (.ensurePresent owner nameSpace) os
  | ensureAllAbsent os => .each .ensureAbsent os
  | convergeRendered owner nameSpace t data => .each (.converge owner nameSpace) (t.objects data)
  | ensureRenderedPresent owner nameSpace t data => .each (.ensurePresent owner nameSpace) (t.objects data)
  | ensureRenderedAbsent nameSpace t data =>
    .each .ensureAbsent ((t.objects data).map fun o => o.withMetadata (o.metadata.inNamespace nameSpace))
  | recordFailure o message => .conclude o (some message)
  | recordSuccess o => .conclude o none

namespace Work

def pass (r : Reconciler) : Work → Pass Unit
  | each task os => do let _ ← Synchronize.batch (task.pass r) os
  | conclude o failure => do let _ ← r.conclude o failure

/-- What is attempted by some work, and what comes of it. -/
def account {σ : Type} (store : Store σ) (r : Reconciler) (w : Work) (s : Surroundings σ) : Account where
  attempts := match w with
    | each task os =>
      (Synchronize.attempts (Surroundings.respond store) (task.pass r) os s).map (task.label, ·)
    | conclude _ _ => []
  conclusions := match w with
    | each _ _ => []
    | conclude o failure => [(o, (Surroundings.run store (r.conclude o failure) s).1.2)]
  statusAnswers := Pass.statusAnswers (log (Surroundings.respond store) (w.pass r) s)

theorem log_discard {σ α : Type} (respond : Dialogue.Responder Effect.Answer σ) (p : Pass α) (s : σ) :
    log respond (do let _ ← p : Pass Unit) s = log respond p s := by
  rw [Dialogue.bind_eq, Dialogue.log_andThen]
  exact List.append_nil _

theorem explains_account {σ : Type} (store : Store σ) (r : Reconciler) (w : Work) (s : Surroundings σ) :
    (w.account store r s).Explains (Pass.measured (log (Surroundings.respond store) (w.pass r) s)) := by
  cases w with
  | each task os =>
    rw [account, pass, log_discard]
    exact Synchronize.explains_batch (Surroundings.respond store) (task.tallied_pass r) os s
  | conclude o failure =>
    rw [account, pass, log_discard]
    exact (Conclusion.recorded_conclude r o failure).run (Surroundings.respond store) s

end Work

namespace Operation

open Synchronize (batch onRendered)

variable {operation : ManagedObject → Pass (ManagedObject × Except ReconcileError Unit)}

theorem discard_batch_single (o : ManagedObject) :
    (do let _ ← batch operation [o] : Pass Unit) = (do let _ ← operation o) := by
  simp only [batch, Dialogue.bind_eq, Dialogue.andThen_assoc]
  congr 1
  funext result
  obtain ⟨o', r⟩ := result
  cases r <;> rfl

theorem discard_onRendered {t : Template} {data : Json}
    {operation : List ManagedObject → Pass (List ManagedObject × Except ReconcileError Unit)}
    (hnone : operation [] = .done ([], .ok ())) :
    (do let _ ← onRendered t data operation : Pass Unit) = (do let _ ← operation (t.objects data)) := by
  rw [onRendered, Template.objects]
  cases t.resources data with
  | error e =>
    rw [hnone]
    rfl
  | ok os => exact Dialogue.andThen_assoc _ _ _

theorem pass_eq (r : Reconciler) (o : Operation) : o.pass r = o.work.pass r := by
  cases o with
  | converge | ensurePresent | ensureAbsent => exact (discard_batch_single _).symm
  | convergeAll | ensureAllPresent | ensureAllAbsent => rfl
  | convergeRendered | ensureRenderedPresent | ensureRenderedAbsent => exact discard_onRendered rfl
  | recordFailure | recordSuccess => rfl

end Operation

namespace Job

variable {σ : Type} (store : Store σ)

/-- The surroundings of a job as it leaves them. -/
def after (j : Job) (s : Surroundings σ) : Surroundings σ :=
  (Surroundings.run store (j.operation.pass j.reconciler) { s with clock := j.clock }).2

def account (j : Job) (s : Surroundings σ) : Account :=
  j.operation.work.account store j.reconciler { s with clock := j.clock }

/-- The surroundings after several jobs, one after the other. -/
def afterAll : List Job → Surroundings σ → Surroundings σ
  | [], s => s
  | j :: js, s => afterAll js (j.after store s)

def accountAll : List Job → Surroundings σ → Account
  | [], _ => {}
  | j :: js, s => j.account store s ++ accountAll js (j.after store s)

theorem explains_account (j : Job) (s : Surroundings σ) :
    ∃ ms, (j.after store s).metrics = s.metrics ++ ms ∧ (j.account store s).Explains ms := by
  have hexplains := j.operation.work.explains_account store j.reconciler { s with clock := j.clock }
  rw [← Operation.pass_eq] at hexplains
  exact ⟨_, Pass.metrics_run store _ _, hexplains⟩

theorem explains_accountAll (js : List Job) (s : Surroundings σ) :
    ∃ ms, (afterAll store js s).metrics = s.metrics ++ ms ∧ (accountAll store js s).Explains ms := by
  induction js generalizing s with
  | nil => exact ⟨[], (List.append_nil _).symm, Account.explains_nil⟩
  | cons j js ih =>
    obtain ⟨ms, hms, hexplains⟩ := j.explains_account store s
    obtain ⟨ms', hms', hexplains'⟩ := ih (j.after store s)
    refine ⟨ms ++ ms', ?_, hexplains.append hexplains'⟩
    rw [afterAll, hms', hms, List.append_assoc]

/-- The metrics grow by what the account of the jobs gives cause for. Under each label they count every operation on an
object that was not refused, once and with the outcome of errors exactly if the store failed. They count the
recordings of identified objects, the delays of those that have the scheduler come back, and the status writes that the
store refused. -/
theorem metrics_explained (js : List Job) (s : Surroundings σ) :
    let a := accountAll store js s
    let before := s.metrics
    let after := (afterAll store js s).metrics
    (∀ label, after.operationTotal label = before.operationTotal label + (a.performed label).length ∧
      ∃ outcomes, after.outcomes label = before.outcomes label ++ outcomes ∧
        List.Forall₂ Account.OutcomeOf (a.performed label) outcomes) ∧
    after.resultTotal = before.resultTotal + a.identified ∧
    after.delays.length = before.delays.length + a.requeued ∧
    after.statusWriteFailures = before.statusWriteFailures + a.refusedWrites := by
  intro a before after
  obtain ⟨ms, hms, hexplains⟩ := explains_accountAll store js s
  rw [show after = before ++ ms from hms]
  refine ⟨fun label => ?_, ?_, ?_, ?_⟩
  · have houtcomes := hexplains.outcomes label
    rw [Metrics.operationTotal_eq, Metrics.operationTotal_eq, Metrics.outcomes_append, List.length_append,
      houtcomes.length_eq]
    exact ⟨rfl, _, rfl, houtcomes⟩
  · rw [Metrics.resultTotal_eq, Metrics.resultTotal_eq, Metrics.results_append, List.length_append, hexplains.results]
  · rw [Metrics.delays_append, List.length_append, hexplains.delays]
  · rw [Metrics.statusWriteFailures_append, hexplains.failures]

/-- Of four deletions the third is refused, which ends the batch. -/
example :
    let r := Reconciler.ofConfiguration .default
    let unidentified := ManagedObject.dynamic ⟨none, {}, .null⟩
    let a := accountAll Memory.respond [⟨r, default, .converge none none Synchronize.settings⟩,
      ⟨r, default, .ensureAllAbsent [Synchronize.settings, Synchronize.settings, unidentified, Synchronize.settings]⟩,
      ⟨r, default, .recordFailure Synchronize.settings "disk full"⟩] Synchronize.emptyStore
    (a.performed "create_or_update", a.performed "delete", a.attempts.length, a.identified, a.requeued) =
      ([.ok ()], [.ok (), .ok ()], 4, 1, 1) := by
  decide +kernel

end Job

end Reconciliation
