import Reconciliation.Proofs.Pass.Log
import Reconciliation.Reconciler
/-!
# Batches

A batch does to the surroundings what its operation does on each object in turn, up to the first failure and with it,
and gives the objects after that back as they were (`FailFast`). Nothing is assumed of the surroundings, which may
answer a later object in view of the earlier ones, and the objects may be the same or have no identity.
-/

namespace Reconciliation

namespace Synchronize

open Dialogue (run log)

variable {σ : Type} {respond : Dialogue.Responder Effect.Answer σ}
  {operation : ManagedObject → Pass (ManagedObject × Except ReconcileError Unit)}
  {all : List ManagedObject → Pass (List ManagedObject × Except ReconcileError Unit)}
  {before after os xs ys : List ManagedObject} {o : ManagedObject} {e : ReconcileError} {s : σ}

/-- Done on each object in turn, an operation succeeds on some objects and then fails on one. -/
structure StopsAt (respond : Dialogue.Responder Effect.Answer σ)
    (operation : ManagedObject → Pass (ManagedObject × Except ReconcileError Unit)) (s : σ)
    (before : List ManagedObject) (o : ManagedObject) (e : ReconcileError) : Prop where
  succeeds : ∀ r ∈ (run respond (before.mapM operation) s).1, r.2 = .ok ()
  fails : (run respond (operation o) (run respond (before.mapM operation) s).2).1.2 = .error e

/-- A batch is the operation on each object in turn, up to the first failure and with it. -/
structure FailFast (respond : Dialogue.Responder Effect.Answer σ)
    (operation : ManagedObject → Pass (ManagedObject × Except ReconcileError Unit))
    (all : List ManagedObject → Pass (List ManagedObject × Except ReconcileError Unit)) : Prop where
  error_iff : ∀ os s e, (run respond (all os) s).1.2 = .error e ↔
    ∃ before o after, os = before ++ o :: after ∧ StopsAt respond operation s before o e
  failed : ∀ before o after s e, StopsAt respond operation s before o e →
    let reached := run respond ((before ++ [o]).mapM operation) s
    run respond (all (before ++ o :: after)) s = ((reached.1.map Prod.fst ++ after, .error e), reached.2) ∧
      log respond (all (before ++ o :: after)) s = log respond ((before ++ [o]).mapM operation) s
  completed : ∀ os s, (∀ before o after e, os = before ++ o :: after → ¬ StopsAt respond operation s before o e) →
    let reached := run respond (os.mapM operation) s
    run respond (all os) s = ((reached.1.map Prod.fst, .ok ()), reached.2) ∧
      log respond (all os) s = log respond (os.mapM operation) s
  append : ∀ xs ys, all (xs ++ ys) = do
    match ← all xs with
    | (xs, .error e) => return (xs ++ ys, .error e)
    | (xs, .ok ()) =>
      let (ys, r) ← all ys
      return (xs ++ ys, r)

/-! ### One object more -/

theorem run_mapM_cons (respond : Dialogue.Responder Effect.Answer σ)
    (operation : ManagedObject → Pass (ManagedObject × Except ReconcileError Unit)) (o : ManagedObject)
    (os : List ManagedObject) (s : σ) :
    let first := run respond (operation o) s
    let rest := run respond (os.mapM operation) first.2
    run respond ((o :: os).mapM operation) s = (first.1 :: rest.1, rest.2) ∧
      log respond ((o :: os).mapM operation) s =
        log respond (operation o) s ++ log respond (os.mapM operation) first.2 := by
  simp only [List.mapM_cons, Dialogue.bind_eq, Dialogue.pure_eq, Dialogue.run_andThen, Dialogue.log_andThen,
    Dialogue.run_done, Dialogue.log_done, List.append_nil, and_self]

theorem run_batch_of_error (os : List ManagedObject) (h : (run respond (operation o) s).1.2 = .error e) :
    let first := run respond (operation o) s
    run respond (batch operation (o :: os)) s = ((first.1.1 :: os, .error e), first.2) ∧
      log respond (batch operation (o :: os)) s = log respond (operation o) s := by
  intro first
  have hfirst : (run respond (operation o) s).1 = (first.1.1, .error e) := Prod.ext rfl h
  rw [batch, Dialogue.bind_eq, Dialogue.run_andThen, Dialogue.log_andThen, hfirst]
  exact ⟨rfl, List.append_nil _⟩

theorem run_batch_of_ok (os : List ManagedObject) (h : (run respond (operation o) s).1.2 = .ok ()) :
    let first := run respond (operation o) s
    let rest := run respond (batch operation os) first.2
    run respond (batch operation (o :: os)) s = ((first.1.1 :: rest.1.1, rest.1.2), rest.2) ∧
      log respond (batch operation (o :: os)) s =
        log respond (operation o) s ++ log respond (batch operation os) first.2 := by
  intro first rest
  have hfirst : (run respond (operation o) s).1 = (first.1.1, .ok ()) := Prod.ext rfl h
  rw [batch, Dialogue.bind_eq, Dialogue.run_andThen, Dialogue.log_andThen, hfirst]
  simp only [Dialogue.bind_eq, Dialogue.pure_eq, Dialogue.run_andThen, Dialogue.log_andThen, Dialogue.run_done,
    Dialogue.log_done, List.append_nil]
  exact ⟨rfl, rfl⟩

theorem stopsAt_nil : StopsAt respond operation s [] o e ↔ (run respond (operation o) s).1.2 = .error e := by
  constructor
  · intro h
    exact h.fails
  · intro h
    exact ⟨by simp, h⟩

theorem stopsAt_cons {first : ManagedObject} : StopsAt respond operation s (first :: before) o e ↔
    (run respond (operation first) s).1.2 = .ok () ∧
      StopsAt respond operation (run respond (operation first) s).2 before o e := by
  have hruns := (run_mapM_cons respond operation first before s).1
  constructor
  · rintro ⟨hsucceeds, hfails⟩
    rw [hruns] at hsucceeds hfails
    obtain ⟨hfirst, hrest⟩ := List.forall_mem_cons.1 hsucceeds
    exact ⟨hfirst, hrest, hfails⟩
  · rintro ⟨hfirst, hrest, hfails⟩
    refine ⟨?_, ?_⟩ <;> rw [hruns]
    · exact List.forall_mem_cons.2 ⟨hfirst, hrest⟩
    · exact hfails

/-! ### All objects -/

/-- Up to the first failure, a batch is its operation on each object in turn. -/
theorem run_batch_of_stopsAt (after : List ManagedObject) (h : StopsAt respond operation s before o e) :
    let reached := run respond ((before ++ [o]).mapM operation) s
    run respond (batch operation (before ++ o :: after)) s =
        ((reached.1.map Prod.fst ++ after, .error e), reached.2) ∧
      log respond (batch operation (before ++ o :: after)) s = log respond ((before ++ [o]).mapM operation) s := by
  intro reached
  -- Each object leaves another state to those after it, so the induction is over any state.
  induction before generalizing s with
  | nil =>
    obtain ⟨hrun, hlog⟩ := run_batch_of_error after (stopsAt_nil.1 h)
    obtain ⟨hruns, hlogs⟩ := run_mapM_cons respond operation o [] s
    rw [List.nil_append, hrun, hlog]
    refine ⟨?_, (hlogs.trans (List.append_nil _)).symm⟩
    rw [show reached = _ from hruns]
    rfl
  | cons first before ih =>
    obtain ⟨hfirst, hrest⟩ := stopsAt_cons.1 h
    obtain ⟨hrun, hlog⟩ := run_batch_of_ok (before ++ o :: after) hfirst
    obtain ⟨hruns, hlogs⟩ := run_mapM_cons respond operation first (before ++ [o]) s
    obtain ⟨hrun', hlog'⟩ := ih hrest
    rw [List.cons_append, hrun, hlog, hrun', hlog']
    refine ⟨?_, hlogs.symm⟩
    rw [show reached = _ from hruns]
    rfl

theorem run_batch_of_succeeds (h : ∀ r ∈ (run respond (os.mapM operation) s).1, r.2 = .ok ()) :
    let reached := run respond (os.mapM operation) s
    run respond (batch operation os) s = ((reached.1.map Prod.fst, .ok ()), reached.2) ∧
      log respond (batch operation os) s = log respond (os.mapM operation) s := by
  intro reached
  induction os generalizing s with
  | nil => exact ⟨rfl, rfl⟩
  | cons o os ih =>
    obtain ⟨hruns, hlogs⟩ := run_mapM_cons respond operation o os s
    rw [hruns] at h
    obtain ⟨hfirst, hrest⟩ := List.forall_mem_cons.1 h
    obtain ⟨hrun, hlog⟩ := run_batch_of_ok os hfirst
    obtain ⟨hrun', hlog'⟩ := ih hrest
    rw [hrun, hlog, hrun', hlog']
    refine ⟨?_, hlogs.symm⟩
    rw [show reached = _ from hruns]
    rfl

/-- Unless the operation succeeds on all objects, there is a first one on which it fails. -/
theorem succeeds_or_stopsAt (respond : Dialogue.Responder Effect.Answer σ)
    (operation : ManagedObject → Pass (ManagedObject × Except ReconcileError Unit)) (os : List ManagedObject) (s : σ) :
    (∀ r ∈ (run respond (os.mapM operation) s).1, r.2 = .ok ()) ∨
      ∃ before o after e, os = before ++ o :: after ∧ StopsAt respond operation s before o e := by
  induction os generalizing s with
  | nil => exact .inl (by simp)
  | cons o os ih =>
    cases hfirst : (run respond (operation o) s).1.2 with
    | error e => exact .inr ⟨[], o, os, e, rfl, stopsAt_nil.2 hfirst⟩
    | ok =>
      rcases ih (run respond (operation o) s).2 with hrest | ⟨before, o', after, e, rfl, hstops⟩
      · rw [(run_mapM_cons respond operation o os s).1]
        exact .inl (List.forall_mem_cons.2 ⟨hfirst, hrest⟩)
      · exact .inr ⟨o :: before, o', after, e, rfl, stopsAt_cons.2 ⟨hfirst, hstops⟩⟩

theorem batch_append (operation : ManagedObject → Pass (ManagedObject × Except ReconcileError Unit))
    (xs ys : List ManagedObject) :
    batch operation (xs ++ ys) = do
      match ← batch operation xs with
      | (xs, .error e) => return (xs ++ ys, .error e)
      | (xs, .ok ()) =>
        let (ys, r) ← batch operation ys
        return (xs ++ ys, r) := by
  induction xs with
  | nil =>
    have hsame : Dialogue.andThen (batch operation ys) (fun r => .done ([] ++ r.1, r.2)) = batch operation ys :=
      Dialogue.andThen_done_right _
    exact hsame.symm
  | cons o xs ih =>
    simp only [List.cons_append, batch, Dialogue.bind_eq, Dialogue.andThen_assoc]
    refine congrArg (Dialogue.andThen (operation o)) (funext fun given => ?_)
    obtain ⟨o', r⟩ := given
    cases r with
    | error e => rfl
    | ok =>
      simp only [ih, Dialogue.bind_eq, Dialogue.andThen_assoc]
      refine congrArg (Dialogue.andThen (batch operation xs)) (funext fun given => ?_)
      obtain ⟨xs', r⟩ := given
      cases r with
      | error e => rfl
      | ok => simp only [Dialogue.pure_eq, Dialogue.andThen_done, Dialogue.andThen_assoc, List.cons_append]

theorem failFast_batch (respond : Dialogue.Responder Effect.Answer σ)
    (operation : ManagedObject → Pass (ManagedObject × Except ReconcileError Unit)) :
    FailFast respond operation (batch operation) where
  error_iff os s e := by
    constructor
    · intro h
      rcases succeeds_or_stopsAt respond operation os s with hall | ⟨before, o, after, e', rfl, hstops⟩
      · rw [(run_batch_of_succeeds hall).1] at h
        cases h
      · rw [(run_batch_of_stopsAt after hstops).1] at h
        cases h
        exact ⟨before, o, after, rfl, hstops⟩
    · rintro ⟨before, o, after, rfl, hstops⟩
      rw [(run_batch_of_stopsAt after hstops).1]
  failed before o after s e hstops := run_batch_of_stopsAt after hstops
  completed os s hnone := by
    rcases succeeds_or_stopsAt respond operation os s with hall | ⟨before, o, after, e, hos, hstops⟩
    · exact run_batch_of_succeeds hall
    · exact absurd hstops (hnone before o after e hos)
  append := batch_append operation

/-- A deletion gives the object back as it is, whatever comes of it. -/
theorem given_ensureAbsent (respond : Dialogue.Responder Effect.Answer σ) (o : ManagedObject) (s : σ) :
    (run respond (ensureAbsent o) s).1.1 = o := by
  have hyields : Dialogue.Yields (fun _ given => given.1 = o) (ensureAbsent o) := by
    unfold ensureAbsent
    cases identify o with
    | error e => exact Pass.yields_done rfl
    | ok found =>
      refine Pass.yields_call fun answer => ?_
      cases answer with
      | ok => exact Pass.yields_measure (Pass.yields_done rfl)
      | error e =>
        dsimp only
        split <;> exact Pass.yields_measure (Pass.yields_done rfl)
  exact hyields.run respond s

end Synchronize

namespace Reconciler

open Synchronize

variable {σ : Type}

/-- Each batch is the operation on each of its objects in turn, with the same effects and the same results, up to the
first failure and with it, so that a longer batch is one batch and, if that succeeds, another. A deletion changes
none of the objects. -/
theorem failFast_batches (respond : Dialogue.Responder Effect.Answer σ) (r : Reconciler)
    (owner : Option ManagedObject) (nameSpace : Option String) :
    FailFast respond (r.converge owner nameSpace) (r.convergeAll owner nameSpace) ∧
      FailFast respond (r.ensurePresent owner nameSpace) (r.ensureAllPresent owner nameSpace) ∧
      FailFast respond ensureAbsent ensureAllAbsent ∧
      ∀ o s, (Dialogue.run respond (ensureAbsent o) s).1.1 = o := by
  refine ⟨?_, ?_, ?_, given_ensureAbsent respond⟩
  · exact failFast_batch respond (r.converge owner nameSpace)
  · exact failFast_batch respond (r.ensurePresent owner nameSpace)
  · exact failFast_batch respond ensureAbsent

end Reconciler

end Reconciliation
